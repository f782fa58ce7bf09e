import SealedTree.Text.Printable

/-!
Quoted text: a text or a character between quotes, every character in it visible. A quote of the
kind around it and a backslash take a backslash, the usual control characters have short escapes,
and whatever else shows nothing is written by its code point.
-/

namespace SealedTree.Text

def codePoint (c : Char) : List Char :=
  ['\\', 'u', '\x7b'] ++ Nat.toDigits 16 c.toNat ++ ['\x7d']

/-- One character as it stands between two `quote`s. -/
def escaped (quote c : Char) : List Char :=
  match c with
  | '\x00' => ['\\', '0']
  | '\t' => ['\\', 't']
  | '\r' => ['\\', 'r']
  | '\n' => ['\\', 'n']
  | '\\' => ['\\', '\\']
  | c =>
      if c = quote then ['\\', c]
      else if isVisible c then [c]
      else codePoint c

def quoted (s : String) : String :=
  String.ofList ('"' :: s.toList.flatMap (escaped '"') ++ ['"'])

def quotedChar (c : Char) : String :=
  String.ofList ('\'' :: escaped '\'' c ++ ['\''])

end SealedTree.Text
