import SealedTree.Json.Basic
import SealedTree.Text.Hex

/-!
Strings of a document: how a text is written between quotes, and how it is read back. Reading goes
in two steps. The first splits what is written into characters and escapes and finds the closing
quote; the second joins the escaped halves of a surrogate pair.
-/

namespace SealedTree.Json

def written (c : Char) : List Char :=
  match c with
  | '"' => ['\\', '"']
  | '\\' => ['\\', '\\']
  | '\x08' => ['\\', 'b']
  | '\x0c' => ['\\', 'f']
  | '\n' => ['\\', 'n']
  | '\r' => ['\\', 'r']
  | '\t' => ['\\', 't']
  | c =>
      if c.toNat < 0x20 then
        ['\\', 'u', '0', '0', Nat.digitChar (c.toNat / 16), Nat.digitChar (c.toNat % 16)]
      else [c]

def writeText (s : String) : List Char :=
  '"' :: s.toList.flatMap written ++ ['"']

/-- A character, or a code unit given by four hexadecimal digits. -/
inductive Piece
  | char (c : Char)
  | unit (value : Nat)
  deriving DecidableEq

def shortEscape : Char → Option Char
  | '"' => some '"'
  | '\\' => some '\\'
  | '/' => some '/'
  | 'b' => some '\x08'
  | 'f' => some '\x0c'
  | 'n' => some '\n'
  | 'r' => some '\r'
  | 't' => some '\t'
  | _ => none

def unit? (a b c d : Char) : Option Nat := do
  let a ← Hex.value? a
  let b ← Hex.value? b
  let c ← Hex.value? c
  let d ← Hex.value? d
  some (((a * 16 + b) * 16 + c) * 16 + d)

def hasFourBytes (cs : List Char) : Bool :=
  4 ≤ (cs.take 4).foldl (fun n c => n + c.utf8Size) 0

/-- The pieces up to the closing quote, and the text after it, or why there is none. -/
def pieces : List Char → List Piece × Except Fault (List Char)
  | [] => ([], .error .endInString)
  | c :: rest =>
      if c = '"' then ([], .ok rest)
      else if c = '\\' then
        match rest with
        | [] => ([], .error .endInString)
        | 'u' :: rest =>
            match rest with
            | a :: b :: c :: d :: rest =>
                match unit? a b c d with
                | none => ([], .error .badCodeUnit)
                | some n => let (ps, close) := pieces rest; (.unit n :: ps, close)
            | rest => ([], .error (if hasFourBytes rest then .badCodeUnit else .endInString))
        | e :: rest =>
            match shortEscape e with
            | none => ([], .error .badEscape)
            | some c => let (ps, close) := pieces rest; (.char c :: ps, close)
      else if c.toNat < 0x20 then ([], .error .controlCharacter)
      else let (ps, close) := pieces rest; (.char c :: ps, close)

/-- What is wrong after a leading surrogate when no code unit follows it. -/
def unpaired : Option Fault → Fault
  | some .endInString => .endInString
  | some .badCodeUnit => .badCodeUnit
  | _ => .halfSurrogatePair

/-- The characters that the pieces stand for, when the text stops after them with the given fault
or none. A leading surrogate needs a trailing one, in an escape right after it. -/
def joined (stop : Option Fault) : List Piece → Except Fault (List Char)
  | [] => match stop with
      | none => .ok []
      | some fault => .error fault
  | .char c :: rest => (joined stop rest).map (c :: ·)
  | .unit n :: rest =>
      if n < 0xD800 ∨ 0xDFFF < n then (joined stop rest).map (Char.ofNat n :: ·)
      else if 0xDC00 ≤ n then .error .loneSurrogate
      else
        match rest with
        | [] => .error (unpaired stop)
        | .char _ :: _ => .error .halfSurrogatePair
        | .unit m :: rest =>
            if 0xDC00 ≤ m ∧ m ≤ 0xDFFF then
              (joined stop rest).map
                (Char.ofNat (0x10000 + (n - 0xD800) * 0x400 + (m - 0xDC00)) :: ·)
            else .error .loneSurrogate

/-- A character is missing between the beginning of `cs` and that of `rest`. A stray is given by how
many characters stand behind it. -/
def hasStray (strays : List Nat) (cs rest : List Char) : Bool :=
  strays.any fun behind => rest.length ≤ behind && behind < cs.length

/-- What stands after an opening quote: the text or why it is none, and the rest. That a character
is missing is noticed last. -/
def readText (strays : List Nat) (cs : List Char) :
    Except Flaw (Except Fault String × List Char) :=
  match pieces cs with
  | (ps, .ok rest) =>
      let text := do
        let text ← joined none ps
        if hasStray strays cs rest then .error .badCodePoint else .ok (String.ofList text)
      .ok (text, rest)
  | (ps, .error passing) =>
      match joined (some passing) ps with
      | .error reading => .error ⟨reading, passing⟩
      | .ok _ => .error passing.always

end SealedTree.Json
