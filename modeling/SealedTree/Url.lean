import SealedTree.Json.Number
import SealedTree.Url.Host
import SealedTree.Url.Path

/-!
URLs: how one is read from a text, and how it is written. URLs of the web are read leniently, with
any number of slashes, of both kinds, before the host. What cannot stand in a part of a URL is
written with percent signs. A URL that is written down again comes out in one form.
-/

namespace SealedTree

structure Url where
  scheme : String
  username : String := ""
  password : Option String := none
  host : Option Url.Host
  /-- The port, unless it is the usual one of the scheme. -/
  port : Option Nat := none
  path : Url.Path
  query : Option String
  fragment : Option String
  deriving DecidableEq

namespace Url

def usualPort? (scheme : String) : Option Nat :=
  [("http", 80), ("https", 443), ("ws", 80), ("wss", 443), ("ftp", 21)].lookup scheme

inductive Kind
  | web
  | file
  | other
  deriving DecidableEq

def Kind.ofScheme (scheme : String) : Kind :=
  if scheme = "file" then .file
  else if (usualPort? scheme).isSome then .web
  else .other

/-- Where a backslash is as good as a slash. -/
def Kind.isSlash (k : Kind) (c : Char) : Bool := c = '/' || (k ≠ .other && c = '\\')

def trimmed (cs : List Char) : List Char :=
  let isBlank (c : Char) : Bool := c.toNat ≤ 0x20
  ((cs.dropWhile isBlank).reverse.dropWhile isBlank).reverse

def splitScheme? (cs : List Char) : Option (String × List Char) :=
  let inScheme (c : Char) : Bool := c.isAlphanum || "+-.".toList.contains c || Path.isBreak c
  match Path.bare (cs.takeWhile inScheme), cs.dropWhile inScheme with
  | c :: scheme, ':' :: rest =>
      if c.isAlpha then some (String.ofList ((c :: scheme).map Char.toLower), rest) else none
  | _, _ => none

/-- The text before a separator, and the text after it if the separator is there. -/
def splitOff (separator : Char) (cs : List Char) : List Char × Option (List Char) :=
  match cs.dropWhile (· ≠ separator) with
  | [] => (cs, none)
  | _ :: rest => (cs.takeWhile (· ≠ separator), some rest)

def splitLastAt? (cs : List Char) : Option (List Char × List Char) :=
  match cs.reverse.dropWhile (· ≠ '@') with
  | [] => none
  | _ :: before => some (before.reverse, (cs.reverse.takeWhile (· ≠ '@')).reverse)

/-- A user's name and password; an empty password is none. -/
def credentials (cs : List Char) : String × Option String :=
  let encode := Percent.encode Percent.inUserinfo
  match splitOff ':' cs with
  | (user, some (c :: rest)) => (encode user, some (encode (c :: rest)))
  | (user, _) => (encode user, none)

/-- The host in front of a port; colons between square brackets belong to it. -/
def splitHost (isEnd : Char → Bool) : (inside : Bool) → List Char → List Char × List Char
  | _, [] => ([], [])
  | inside, c :: rest =>
      if isEnd c ∨ (c = ':' ∧ ¬inside) then ([], c :: rest)
      else
        let (host, rest) := splitHost isEnd (c = '[' || (inside && c ≠ ']')) rest
        (c :: host, rest)

def splitPort? : List Char → Option (Option Nat × List Char)
  | ':' :: cs => do
      let (ds, rest) := Json.digits cs
      let port := ds.foldl (fun n d => 10 * n + d) 0
      if 65535 < port ∨ rest.head?.any fun c => c ≠ '/' ∧ c ≠ '\\' then none
      else some (if ds.isEmpty then none else some port, rest)
  | cs => some (none, cs)

structure Front where
  username : String := ""
  password : Option String := none
  host : Option Host
  port : Option Nat := none

/-- The machine after two slashes, and who asks it. Nobody may ask for nothing, unless the URL ends
there. -/
def authority? (scheme : String) (atEnd : Bool) (cs : List Char) :
    Option (Front × List Char) := do
  let k := Kind.ofScheme scheme
  let whole := cs.takeWhile (!k.isSlash ·)
  let rest := cs.dropWhile (!k.isSlash ·)
  let (user, whole) := match splitLastAt? whole with
    | some (user, whole) => (some user, whole)
    | none => (none, whole)
  if user = some [] ∧ whole.isEmpty ∧ ¬(rest.isEmpty ∧ atEnd) then none
  let (username, password) := credentials (user.getD [])
  let (host, rest) := splitHost k.isSlash false (whole ++ rest)
  if host.isEmpty ∧
      (k = .web ∨ rest.head? = some ':' ∨ username ≠ "" ∨ password.isSome) then none
  let host ← if k = .web then Host.ofWeb? host else Host.ofOther? host
  let (port, rest) ← splitPort? rest
  some ({ username, password, host, port := port.filter (some · ≠ usualPort? scheme) }, rest)

/-- The machine that a file is on; this one has no name. -/
def fileHost? (cs : List Char) : Option Host :=
  if cs.isEmpty then some (.name "")
  else (Host.ofWeb? cs).map fun host => if host = .name "localhost" then .name "" else host

def dropSlash (k : Kind) : List Char → List Char
  | [] => []
  | c :: rest => if k.isSlash c then rest else c :: rest

/-- The machine that a file is on, and the path there. A drive is no machine. Without a machine the
path begins at its slash, so that there an empty part stands in front. -/
def fileFront? (cs : List Char) : Option (Host × List Char) :=
  match cs with
  | a :: b :: rest =>
      if Kind.file.isSlash a ∧ Kind.file.isSlash b then
        let name := rest.takeWhile (!Kind.file.isSlash ·)
        let after := rest.dropWhile (!Kind.file.isSlash ·)
        if Path.isDrive name then some (.name "", rest)
        else
          (fileHost? name).map fun host =>
            (host, if host = .name "" then after else dropSlash .file after)
      else some (.name "", dropSlash .file cs)
  | cs => some (.name "", dropSlash .file cs)

/-- What is left after so many characters, not counting breaks. -/
def dropBare : Nat → List Char → List Char
  | 0, cs => cs
  | _, [] => []
  | n + 1, c :: rest => if Path.isBreak c then dropBare (n + 1) rest else dropBare n rest

/-- The machine and the path of a file. On a drive the machine does not matter. -/
def fileBody? (cs : List Char) : Option (Front × Path) := do
  let (host, path) ← fileFront? (Path.bare cs)
  let path := dropBare ((Path.bare cs).length - path.length) cs
  let way := Path.follow true (Text.parts Kind.file.isSlash path)
  some ({ host := some (if way.onDrive then .name "" else host) },
    .steps (Path.withoutBlankFront way.parts))

def stepsFrom (k : Kind) (cs : List Char) : List String :=
  (Path.follow false (Text.parts k.isSlash cs)).parts

/-- The machine and the path of a URL that is not a file. -/
def body? (scheme : String) (atEnd : Bool) (cs : List Char) : Option (Front × Path) :=
  if Kind.ofScheme scheme = .web then do
    let (front, rest) ← authority? scheme atEnd (cs.dropWhile (Kind.isSlash .web))
    some (front, .steps (stepsFrom .web (dropSlash .web rest)))
  else
    match cs with
    | '/' :: '/' :: rest => do
        let (front, rest) ← authority? scheme atEnd rest
        let steps := if rest.isEmpty then [] else stepsFrom .other (dropSlash .other rest)
        some (front, .steps steps)
    | '/' :: rest => some ({ host := none }, .steps (stepsFrom .other rest))
    | cs => some ({ host := none }, .plain (Percent.encode Percent.inAny cs))

/-- Reads a URL that stands alone: it has to have a scheme. -/
def parse? (text : String) : Option Url := do
  let (scheme, rest) ← splitScheme? (trimmed text.toList)
  let (rest, fragment) := splitOff '#' rest
  let (rest, query) := splitOff '?' rest
  let atEnd := query.isNone && fragment.isNone
  let (front, path) ←
    if Kind.ofScheme scheme = .file then fileBody? rest else body? scheme atEnd (Path.bare rest)
  let inQuery := if Kind.ofScheme scheme = .other then Percent.inQuery else Percent.inWebQuery
  some
    { scheme
      username := front.username
      password := front.password
      host := front.host
      port := front.port
      path
      query := query.map (Percent.encode inQuery ∘ Path.bare)
      fragment := fragment.map (Percent.encode Percent.inFragment ∘ Path.bare) }

def hasCredentials (u : Url) : Bool := u.username ≠ "" || u.password.isSome

def authorityText (u : Url) (host : Host) : String :=
  let who :=
    if u.hasCredentials then u.username ++ (u.password.map (":" ++ ·)).getD "" ++ "@" else ""
  "//" ++ who ++ host.text ++ (u.port.map fun n => ":" ++ toString n).getD ""

/-- Without a machine, a path that begins with two slashes could be taken for one. -/
def pathText (u : Url) : String :=
  match u.host, u.path with
  | none, .steps ("" :: part :: parts) => "/." ++ (Path.steps ("" :: part :: parts)).text
  | _, path => path.text

def text (u : Url) : String :=
  u.scheme ++ ":" ++ (u.host.map u.authorityText).getD "" ++ u.pathText ++
    (u.query.map ("?" ++ ·)).getD "" ++ (u.fragment.map ("#" ++ ·)).getD ""

def hasHost (u : Url) : Bool := u.host.any (· ≠ .name "")

/-- Who asks is told apart from the URL, and left out of it, unless the name is no text. -/
def withoutCredentials (u : Url) : Url :=
  match Percent.text? u.username with
  | none => u
  | some user =>
      if user ≠ "" ∨ (u.password.bind Percent.text?).isSome then
        { u with username := "", password := none }
      else u

/-- Requests go to URLs of two schemes, and to names without quotes and curly brackets. -/
def isRequestable (u : Url) : Bool :=
  (u.scheme = "http" || u.scheme = "https") && u.hasHost && u.text.utf8ByteSize < 65535 &&
    u.host.any fun host => host.text.toList.all fun c =>
      !("\"\x7b\x7d".toList.contains c || c.toNat = 0x60)

end Url

end SealedTree
