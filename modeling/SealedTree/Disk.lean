import SealedTree.Text.Parts

/-!
A disk with files in directories, and what the operating system says when a file cannot be had. A
written path is walked name by name, and every name but the last has to lead into a directory that
is there.
-/

namespace SealedTree

inductive DiskFault
  | noSuchFile
  | notADirectory
  | isADirectory
  | nameTooLong
  deriving DecidableEq

def DiskFault.message : DiskFault → String
  | .noSuchFile => "No such file or directory (os error 2)"
  | .notADirectory => "Not a directory (os error 20)"
  | .isADirectory => "Is a directory (os error 21)"
  | .nameTooLong => "File name too long (os error 36)"

/-- The names on the way to a file from the working directory. Pairs of points at the front lead out
of it, and a slash at the front leads to the root. -/
abbrev Path := List String

/-- Files by their paths. A directory is there when a file in it is; the working directory, those
around it and the root always are. -/
structure Disk where
  files : List (Path × ByteArray)

namespace Disk

def names (text : String) : List String :=
  ((Text.parts (· == '/') text.toList).map String.ofList).filter (· != "")

def origin (text : String) : Path := if text.toList.head? = some '/' then ["/"] else []

/-- A path that ends in a slash means a directory. -/
def meansDirectory (text : String) : Bool := text.toList.getLast? == some '/'

def file? (d : Disk) (p : Path) : Option ByteArray := d.files.lookup p

def isOutside (p : Path) : Bool := p.all (· == "..")

def isDirectory (d : Disk) (p : Path) : Bool :=
  isOutside p || p == ["/"] ||
    d.files.any fun (q, _) => p.length < q.length && q.take p.length == p

def parent (p : Path) : Path :=
  if isOutside p then p ++ [".."] else if p == ["/"] then p else p.dropLast

/-- The way to a name in a directory. A name has at most 255 bytes. -/
def enter (d : Disk) (p : Path) (name : String) : Except DiskFault Path :=
  if (d.file? p).isSome then .error .notADirectory
  else if !d.isDirectory p then .error .noSuchFile
  else if name = "." then .ok p
  else if name = ".." then .ok (parent p)
  else if 255 < name.utf8ByteSize then .error .nameTooLong
  else .ok (p ++ [name])

def walk (d : Disk) : Path → List String → Except DiskFault Path
  | p, [] => .ok p
  | p, name :: rest => do walk d (← d.enter p name) rest

/-- A path is not empty, and has less than 4096 bytes. -/
def checkLength (text : String) : Except DiskFault Unit :=
  if text.isEmpty then .error .noSuchFile
  else if 4096 ≤ text.utf8ByteSize then .error .nameTooLong
  else .ok ()

def read (d : Disk) (text : String) : Except DiskFault ByteArray := do
  checkLength text
  let p ← d.walk (origin text) (names text)
  match d.file? p with
  | some content => if meansDirectory text then .error .notADirectory else .ok content
  | none => .error (if d.isDirectory p then .isADirectory else .noSuchFile)

def target (d : Disk) (text : String) : Except DiskFault Path := do
  checkLength text
  let directory ← d.walk (origin text) (names text).dropLast
  let directory ← d.enter directory "."
  if meansDirectory text then .error .isADirectory
  let p ← d.enter directory ((names text).getLast?.getD ".")
  if d.isDirectory p then .error .isADirectory
  .ok p

def put (d : Disk) (p : Path) (content : ByteArray) : Disk :=
  ⟨(p, content) :: d.files.filter (·.1 != p)⟩

def write (d : Disk) (text : String) (content : ByteArray) : Except DiskFault Disk :=
  (d.target text).map fun p => d.put p content

theorem file?_put (d : Disk) (p : Path) (content : ByteArray) :
    (d.put p content).file? p = some content := by
  simp [put, file?]

end Disk

end SealedTree
