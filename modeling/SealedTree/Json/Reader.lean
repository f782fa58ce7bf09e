import SealedTree.Json.Number
import SealedTree.Json.Text
import SealedTree.Text.Utf8

/-!
Reading a document from a text. The reader never refuses: what is wrong in the text becomes a
fault in the document, at its place, and nothing after it is read.

A text that comes as bytes may lack characters. In place of each there is one that takes a single
byte too and means nothing to JSON; what the reader is told about the strays lets it see those that
stand in a string.
-/

namespace SealedTree.Json

def skipBlank (cs : List Char) : List Char :=
  cs.dropWhile fun c => c = ' ' ∨ c = '\n' ∨ c = '\t' ∨ c = '\r'

/-- A value, and the text after it unless the value is broken. -/
abbrev Read := Json × Option (List Char)

def readWord (value : Json) : (word : List Char) → List Char → Read
  | [], rest => (value, some rest)
  | _, [] => (.broken Fault.endInValue.always, none)
  | w :: word, c :: rest =>
      if c = w then readWord value word rest else (.broken Fault.unknownWord.always, none)

def readNumber (cs : List Char) : Read :=
  match numeral cs with
  | .error flaw => (.broken flaw, none)
  | .ok (n, rest) =>
      match n.value with
      | .ok value => (.number value, some rest)
      | .error fault => (.valueless fault, some rest)

section Strays

variable (strays : List Nat)

def readString (cs : List Char) : Read :=
  match readText strays cs with
  | .error flaw => (.broken flaw, none)
  | .ok (.ok s, rest) => (.string s, some rest)
  | .ok (.error fault, rest) => (.valueless fault, some rest)

def readScalar : List Char → Read
  | [] => (.broken Fault.endInValue.always, none)
  | '"' :: rest => readString strays rest
  | 'n' :: rest => readWord .null ['u', 'l', 'l'] rest
  | 't' :: rest => readWord (.bool true) ['r', 'u', 'e'] rest
  | 'f' :: rest => readWord (.bool false) ['a', 'l', 's', 'e'] rest
  | c :: rest =>
      if c = '-' ∨ (digit? c).isSome then readNumber (c :: rest)
      else (.broken Fault.noValue.always, none)

/-- What stands in an array or object where an element or the end is due. -/
inductive Turn
  | element (rest : List Char)
  | close (rest : List Char)
  | stop (flaw : Flaw)

/-- What is peculiar to arrays and to objects: the bracket at the end, and the faults where it or a
comma is missing. Who passes over a value takes what follows a comma for the beginning of an
element, whatever it is. -/
structure Bracket where
  closing : Char
  atEnd : Fault
  noEnd : Fault
  endAfterComma : Flaw
  closedAfterComma : Flaw

def Bracket.square : Bracket where
  closing := ']'
  atEnd := .endInArray
  noEnd := .noArrayEnd
  endAfterComma := Fault.endInValue.always
  closedAfterComma := ⟨.trailingComma, .noValue⟩

def Bracket.curly : Bracket where
  closing := '\x7d'
  atEnd := .endInObject
  noEnd := .noObjectEnd
  endAfterComma := ⟨.endInValue, .endInObject⟩
  closedAfterComma := ⟨.trailingComma, .keyNotString⟩

/-- Elements are separated by commas; `first` says that none has been read. -/
def turn (first : Bool) (b : Bracket) (cs : List Char) : Turn :=
  match skipBlank cs with
  | [] => .stop b.atEnd.always
  | c :: rest =>
      if c = b.closing then .close rest
      else if first then .element (c :: rest)
      else if c = ',' then
        match skipBlank rest with
        | [] => .stop b.endAfterComma
        | d :: rest => if d = b.closing then .stop b.closedAfterComma else .element (d :: rest)
      else .stop b.noEnd.always

mutual

def readValue : (fuel : Nat) → List Char → Read
  | 0, _ => (.broken Fault.noValue.always, none)
  | fuel + 1, cs =>
      match skipBlank cs with
      | '[' :: rest =>
          let (items, stop, rest) := readItems fuel true rest
          (.array items stop, rest)
      | '\x7b' :: rest =>
          let (members, stop, rest) := readMembers fuel true rest
          (.object members stop, rest)
      | cs => readScalar strays cs

def readItems : (fuel : Nat) → (first : Bool) → List Char →
    List Json × Option Flaw × Option (List Char)
  | 0, _, _ => ([], some Fault.noValue.always, none)
  | fuel + 1, first, cs =>
      match turn first .square cs with
      | .close rest => ([], none, some rest)
      | .stop flaw => ([], some flaw, none)
      | .element cs =>
          match readValue fuel cs with
          | (item, none) => ([item], some Fault.noArrayEnd.always, none)
          | (item, some rest) =>
              let (items, stop, rest) := readItems fuel false rest
              (item :: items, stop, rest)

def readMembers : (fuel : Nat) → (first : Bool) → List Char →
    List (Except Fault String × Json) × Option Flaw × Option (List Char)
  | 0, _, _ => ([], some Fault.noValue.always, none)
  | fuel + 1, first, cs =>
      match turn first .curly cs with
      | .close rest => ([], none, some rest)
      | .stop flaw => ([], some flaw, none)
      | .element ('"' :: cs) =>
          match readText strays cs with
          | .error flaw => ([], some flaw, none)
          | .ok (name, rest) =>
              match skipBlank rest with
              | ':' :: cs =>
                  match readValue fuel cs with
                  | (value, none) => ([(name, value)], some Fault.noObjectEnd.always, none)
                  | (value, some rest) =>
                      let (members, stop, rest) := readMembers fuel false rest
                      ((name, value) :: members, stop, rest)
              | [] => ([(name, .broken Fault.endInObject.always)], none, none)
              | _ => ([(name, .broken Fault.noColon.always)], none, none)
      | .element _ => ([], some Fault.keyNotString.always, none)

end

end Strays

/-- The document at the front of a text, and what follows it. Each step of the reader takes a
character or goes one bracket down, so twice the length of the text bounds its steps. -/
def read (text : String) : Read :=
  let cs := text.toList
  readValue [] (2 * cs.length + 2) cs

/-- The document at the front of a text in bytes. -/
def readBytes (bytes : ByteArray) : Read :=
  let chars := Utf8.chars bytes
  let cs := chars.map fun c => c.getD '\x7f'
  readValue (Utf8.strays chars) (2 * cs.length + 2) cs

end SealedTree.Json
