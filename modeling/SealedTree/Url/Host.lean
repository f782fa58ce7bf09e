import SealedTree.Url.Domain
import SealedTree.Url.Percent

/-!
The machine a URL leads to: a name, or an address of 32 or of 128 bits. A name whose last part is a
number is an address of 32 bits, or nothing.
-/

namespace SealedTree

namespace Url

inductive Host
  | name (text : String)
  | four (address : Nat)
  /-- Eight pieces of 16 bits. -/
  | six (pieces : List Nat)
  deriving DecidableEq

def number? (base : Nat) (cs : List Char) : Option Nat :=
  cs.foldlM (fun n c => do
    let d ← Hex.value? c
    if d < base then some (base * n + d) else none) 0

namespace Host

/-- A number in an address of 32 bits. A zero at the front makes it octal, `0x` hexadecimal. -/
def addressPart? : List Char → Option Nat
  | [] => none
  | '0' :: 'x' :: rest | '0' :: 'X' :: rest => number? 16 rest
  | '0' :: c :: rest => number? 8 (c :: rest)
  | cs => number? 10 cs

/-- The parts of a name; a point at its end stands for nothing. -/
def nameParts (name : String) : List (List Char) :=
  let parts := Domain.labels name.toList
  if parts.length > 1 ∧ parts.getLast? = some [] then parts.dropLast else parts

def endsInNumber (name : String) : Bool :=
  match (nameParts name).getLast? with
  | none | some [] => false
  | some part => part.all Char.isDigit || (addressPart? part).isSome

/-- The bytes of an address. The last number takes all bytes that the others leave. -/
def address? (name : String) : Option Nat := do
  let parts ← (nameParts name).mapM addressPart?
  let last ← parts.getLast?
  let others := parts.dropLast
  if 3 < others.length ∨ others.any (255 < ·) then none
  else
    let room := 8 * (4 - others.length)
    if last < Nat.pow 2 room then
      some (others.foldl (fun n part => 256 * n + part) 0 * Nat.pow 2 room + last)
    else none

/-- The four numbers of an address inside a longer one, as two pieces. -/
def quads? (cs : List Char) : Option (List Nat) := do
  let parts ← (Domain.labels cs).mapM fun part => match part with
    | [] | '0' :: _ :: _ => none
    | part => (number? 10 part).filter (· < 256)
  match parts with
  | [a, b, c, d] => some [256 * a + b, 256 * c + d]
  | _ => none

/-- Pieces between colons; at the very end of an address four numbers may stand for two. -/
def pieces? (atEnd : Bool) : List (List Char) → Option (List Nat)
  | [] => some []
  | [part] =>
      if atEnd ∧ part.contains '.' then quads? part
      else if part.isEmpty ∨ 4 < part.length then none
      else (number? 16 part).map fun n => [n]
  | part :: rest => do
      let n ← if part.isEmpty ∨ 4 < part.length then none else number? 16 part
      (pieces? atEnd rest).map (n :: ·)

def splitGap : List Char → Option (List Char × List Char)
  | ':' :: ':' :: rest => some ([], rest)
  | c :: rest => (splitGap rest).map fun (before, after) => (c :: before, after)
  | [] => none

/-- An address of 128 bits. A pair of colons stands for at least one piece of zeros. -/
def long? (cs : List Char) : Option (List Nat) :=
  let side (atEnd : Bool) (cs : List Char) : Option (List Nat) :=
    if cs.isEmpty then some [] else pieces? atEnd (Text.parts (· = ':') cs)
  match splitGap cs with
  | none => (side true cs).filter (·.length == 8)
  | some (before, after) => do
      let before ← side false before
      let after ← side true after
      if before.length + after.length < 8 then
        some (before ++ List.replicate (8 - before.length - after.length) 0 ++ after)
      else none

/-- The first of the longest runs of zeros: where it begins and how long it is. -/
def zeros (pieces : List Nat) : Nat × Nat :=
  (List.range pieces.length).foldl
    (fun best i =>
      let run := ((pieces.drop i).takeWhile (· == 0)).length
      if best.2 < run then (i, run) else best)
    (0, 0)

def longText (pieces : List Nat) : String :=
  let shown (ps : List Nat) : String :=
    ":".intercalate (ps.map fun p => String.ofList (Nat.toDigits 16 p))
  let (start, length) := zeros pieces
  if length < 2 then shown pieces
  else shown (pieces.take start) ++ "::" ++ shown (pieces.drop (start + length))

def text : Host → String
  | .name text => text
  | .four n =>
      ".".intercalate ([n / 16777216, n / 65536 % 256, n / 256 % 256, n % 256].map toString)
  | .six pieces => "[" ++ longText pieces ++ "]"

def bracketed? (cs : List Char) : Option Host :=
  match cs.reverse with
  | ']' :: inner => (long? inner.reverse).map .six
  | _ => none

def ofWeb? : List Char → Option Host
  | '[' :: rest => bracketed? rest
  | cs => do
      let name ← Domain.ofText? (← Percent.text? (String.ofList cs))
      if name.isEmpty then none
      else if endsInNumber name then (address? name).map .four
      else some (.name name)

/-- The host of another URL: its name is taken as it is. -/
def ofOther? : List Char → Option Host
  | '[' :: rest => bracketed? rest
  | cs =>
      if cs.any fun c => "\x00 #/:<>?@[\\]^|".toList.contains c then none
      else some (.name (Percent.encode Percent.inAny cs))

end Host

end Url

end SealedTree
