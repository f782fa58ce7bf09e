import SealedTree.Text.Hex

/-!
Percent signs in URLs: a byte that cannot stand for itself is written as a percent sign and two
hexadecimal digits. Which characters cannot depends on the part of the URL. A percent sign itself
always stands, so what is encoded already stays as it is.
-/

namespace SealedTree.Url.Percent

/-- Controls and what lies outside ASCII; these never stand for themselves. -/
def inAny (c : Char) : Bool := c.toNat < 0x20 || 0x7E < c.toNat

/-- The backquote is `0x60`. -/
def inFragment (c : Char) : Bool := inAny c || " \"<>".toList.contains c || c.toNat = 0x60

def inPath (c : Char) : Bool := inFragment c || "#?\x7b\x7d".toList.contains c

def inUserinfo (c : Char) : Bool := inPath c || "/:;=@[\\]^|".toList.contains c

def inQuery (c : Char) : Bool := inAny c || " \"#<>".toList.contains c

/-- In URLs of the web an apostrophe, `0x27`, does not stand for itself in a query. -/
def inWebQuery (c : Char) : Bool := inQuery c || c.toNat = 0x27

def encodeByte (b : UInt8) : List Char :=
  ['%', (Nat.digitChar (b.toNat / 16)).toUpper, (Nat.digitChar (b.toNat % 16)).toUpper]

def encodeChar (escaped : Char → Bool) (c : Char) : List Char :=
  if escaped c then (String.utf8EncodeChar c).flatMap encodeByte else [c]

def encode (escaped : Char → Bool) (cs : List Char) : String :=
  String.ofList (cs.flatMap (encodeChar escaped))

/-- The bytes of a text in which a percent sign and two digits stand for a byte. -/
def decode : List Char → List UInt8
  | '%' :: a :: b :: rest =>
      match Hex.value? a, Hex.value? b with
      | some hi, some lo => UInt8.ofNat (16 * hi + lo) :: decode rest
      | _, _ => 0x25 :: decode (a :: b :: rest)
  | c :: rest => String.utf8EncodeChar c ++ decode rest
  | [] => []

def text? (part : String) : Option String :=
  String.fromUTF8? (ByteArray.mk (decode part.toList).toArray)

end SealedTree.Url.Percent
