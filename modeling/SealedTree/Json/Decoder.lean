import SealedTree.Json.Mismatch
import SealedTree.Json.Reader

/-!
Reading values out of a document. A decoder goes through its document in the order of the text, so
of several faults the first in the text is the one reported. A record is an object, or an array
with the fields in their declared order.
-/

namespace SealedTree.Json

/-- Where a value stands: how many arrays and objects are open around it, and whether it was kept
as a whole before it was known what to read from it. -/
structure Site where
  depth : Nat
  kept : Bool

def Site.top : Site := ⟨0, false⟩

def Site.inner (s : Site) : Site := { s with depth := s.depth + 1 }

def Site.keeping (s : Site) : Site := { s with kept := true }

abbrev Decoder (α : Type) := Site → Json → Except Error α

def fail (m : Mismatch) : Except Error α := .error (.mismatch m [])

def stopAt (fault : Fault) : Except Error α := .error (.malformed fault)

def within (step : Step) (result : Except Error α) : Except Error α :=
  result.mapError (Error.inside step)

/-- What stands in the document. An array or object counts as soon as its bracket is read. -/
def found? : Json → Except Fault Found
  | .null => .ok .null
  | .bool b => .ok (.bool b)
  | .number n => .ok (.number n)
  | .string s => .ok (.string s)
  | .array .. => .ok .sequence
  | .object .. => .ok .map
  | .valueless fault => .error fault
  | .broken flaw => .error flaw.reading

def wrongKind (expected : String) (j : Json) : Except Error α :=
  match j.found? with
  | .ok found => fail (.wrongKind found expected)
  | .error fault => stopAt fault

def Decoder.map (f : α → β) (d : Decoder α) : Decoder β :=
  fun site j => (d site j).map f

def Decoder.refine (d : Decoder α) (f : α → Except String β) : Decoder β :=
  fun site j => do
    match f (← d site j) with
    | .ok b => .ok b
    | .error message => fail (.refused message)

def boolean : Decoder Bool
  | _, .bool b => .ok b
  | _, j => wrongKind "a boolean" j

def text : Decoder String
  | _, .string s => .ok s
  | _, j => wrongKind "a string" j

def integer (name : String) (low high : Int) : Decoder Int
  | _, .number (.integer i) =>
      if low ≤ i ∧ i ≤ high then .ok i else fail (.wrongValue (.number (.integer i)) name)
  | _, j => wrongKind name j

def uint8 : Decoder UInt8 := (integer "u8" 0 255).map fun i => UInt8.ofNat i.toNat

def uint16 : Decoder UInt16 := (integer "u16" 0 65535).map fun i => UInt16.ofNat i.toNat

def uint32 : Decoder UInt32 := (integer "u32" 0 4294967295).map fun i => UInt32.ofNat i.toNat

def uint64 : Decoder UInt64 :=
  (integer "u64" 0 18446744073709551615).map fun i => UInt64.ofNat i.toNat

def count : Decoder Nat := (integer "usize" 0 18446744073709551615).map Int.toNat

def int16 : Decoder Int16 := (integer "i16" (-32768) 32767).map Int16.ofInt

def floatOfInt (i : Int) : Float :=
  if i < 0 then -i.natAbs.toUInt64.toFloat else i.natAbs.toUInt64.toFloat

def float : Decoder Float
  | _, .number (.real x) => .ok x
  | _, .number (.integer i) => .ok (floatOfInt i)
  | _, j => wrongKind "f64" j

def optional (d : Decoder α) : Decoder (Option α)
  | _, .null => .ok none
  | site, j => (d site j).map some

/-- Nothing at all; an empty object passes for it in a kept value. -/
def nothing : Decoder Unit
  | _, .null => .ok ()
  | site, j =>
      match site.kept, j with
      | true, .object [] none => .ok ()
      | _, j => wrongKind "unit" j

/-- The end of an array or object that is read up to there. -/
def ending : Option Flaw → Except Error Unit
  | none => .ok ()
  | some flaw => stopAt flaw.reading

/-- The end of an array or object that is passed over. -/
def passing : Option Flaw → Except Error Unit
  | none => .ok ()
  | some flaw => stopAt flaw.passing

def eachItem (d : Decoder α) (site : Site) : (index : Nat) → List Json → Except Error (List α)
  | _, [] => .ok []
  | index, item :: rest => do
      let a ← within (.index index) (d site item)
      let as ← eachItem d site (index + 1) rest
      .ok (a :: as)

def list (d : Decoder α) : Decoder (List α)
  | site, .array items stop => do
      let as ← eachItem d site.inner 0 items
      ending stop
      .ok as
  | _, j => wrongKind "a sequence" j

def elements (n : Nat) : String := if n = 1 then "1 element" else toString n ++ " elements"

/-- The end of an array of which `taken` items were wanted and `rest` is left. -/
def endingAfter (site : Site) (taken : Nat) (rest : List Json) (stop : Option Flaw) :
    Except Error Unit :=
  if site.kept then
    if rest.isEmpty then ending stop
    else fail (.wrongLength (taken + rest.length) (elements taken ++ " in sequence"))
  else if rest.isEmpty then
    match stop.map Flaw.reading with
    | none => .ok ()
    | some .endInArray => stopAt .endInArray
    | some .trailingComma => stopAt .trailingComma
    | some _ => stopAt .trailingCharacters
  else stopAt .trailingCharacters

def exactly (n : Nat) (d : Decoder α) : Decoder (List α)
  | site, .array items stop => do
      let as ← eachItem d site.inner 0 (items.take n)
      if items.length < n then
        ending stop
        fail (.wrongLength items.length ("an array of length " ++ toString n))
      else
        endingAfter site n (items.drop n) stop
        .ok as
  | _, j => wrongKind ("an array of length " ++ toString n) j

mutual

/-- A value that is passed over only has to be well written. -/
def skip : Json → Except Error Unit
  | .broken flaw => stopAt flaw.passing
  | .array items stop => do
      skipItems items
      passing stop
  | .object members stop => do
      skipMembers members
      passing stop
  | _ => .ok ()

def skipItems : List Json → Except Error Unit
  | [] => .ok ()
  | item :: rest => do
      skip item
      skipItems rest

def skipMembers : List (Except Fault String × Json) → Except Error Unit
  | [] => .ok ()
  | (_, value) :: rest => do
      skip value
      skipMembers rest

end

mutual

/-- A value that is kept as a whole has to have a value everywhere, and at most 127 arrays and
objects inside one another. -/
def keep (depth : Nat) : Json → Except Error Unit
  | .valueless fault => stopAt fault
  | .broken flaw => stopAt flaw.reading
  | .array items stop => do
      if 127 ≤ depth then stopAt .tooDeep
      keepItems (depth + 1) items
      ending stop
  | .object members stop => do
      if 127 ≤ depth then stopAt .tooDeep
      keepMembers (depth + 1) members
      ending stop
  | _ => .ok ()

def keepItems (depth : Nat) : List Json → Except Error Unit
  | [] => .ok ()
  | item :: rest => do
      keep depth item
      keepItems depth rest

def keepMembers (depth : Nat) : List (Except Fault String × Json) → Except Error Unit
  | [] => .ok ()
  | (.error fault, _) :: _ => stopAt fault
  | (.ok _, value) :: rest => do
      keep depth value
      keepMembers depth rest

end

/-- A field of a record: its name, whether it may be left out, and what it has to be. -/
structure Slot where
  name : String
  required : Bool
  check : Decoder Unit

def slot (name : String) (d : Decoder α) : Slot := ⟨name, true, d.map fun _ => ()⟩

def openSlot (name : String) (d : Decoder α) : Slot := ⟨name, false, d.map fun _ => ()⟩

abbrev Fields := List (String × Json)

/-- The fields of a record written as an array, from the field with number `index` on. -/
def itemFields (title : String) (site : Site) (stop : Option Flaw) :
    (index : Nat) → List Slot → List Json → Except Error Fields
  | index, [], items => do
      endingAfter site index items stop
      .ok []
  | index, s :: slots, [] => do
      ending stop
      if s.required then fail (.wrongLength index title)
      itemFields title site stop (index + 1) slots []
  | index, s :: slots, item :: items => do
      within (.index index) (s.check site.inner item)
      let fields ← itemFields title site stop (index + 1) slots items
      .ok ((s.name, item) :: fields)

/-- The fields of a record written as an object; names that are no field are passed over. -/
def memberFields (slots : List Slot) (site : Site) (stop : Option Flaw) :
    (fields : Fields) → List (Except Fault String × Json) → Except Error Fields
  | fields, [] => do
      ending stop
      match slots.find? fun s => s.required && (fields.lookup s.name).isNone with
      | some s => fail (.missingField s.name)
      | none => .ok fields
  | _, (.error fault, _) :: _ => stopAt fault
  | fields, (.ok name, value) :: rest =>
      match slots.find? (·.name == name) with
      | none => do
          skip value
          memberFields slots site stop fields rest
      | some s => do
          if (fields.lookup name).isSome then fail (.duplicateField name)
          within (.name name) (s.check site.inner value)
          memberFields slots site stop (fields ++ [(name, value)]) rest

def fields (title : String) (slots : List Slot) : Decoder Fields
  | site, .array items stop =>
      itemFields (title ++ " with " ++ elements slots.length) site stop 0 slots items
  | site, .object members stop => memberFields slots site stop [] members
  | _, j => wrongKind title j

def Fields.get (fields : Fields) (site : Site) (name : String) (d : Decoder α) : Except Error α :=
  match fields.lookup name with
  | some j => d site.inner j
  | none => fail (.missingField name)

def Fields.getOr (fields : Fields) (site : Site) (name : String) (d : Decoder α) (absent : α) :
    Except Error α :=
  match fields.lookup name with
  | some j => d site.inner j
  | none => .ok absent

def knownVariant (known : List String) (name : String) : Except Error String :=
  if name ∈ known then .ok name else fail (.unknownVariant name known)

/-- A choice between names: the name itself, or an object with nothing under that name. -/
def variant (known : List String) : Decoder String
  | _, .string s => knownVariant known s
  | site, .object members stop =>
      if site.kept then
        match members with
        | [(.ok name, value)] => do
            let name ← knownVariant known name
            nothing site.inner value
            .ok name
        | _ => fail (.wrongValue .map "map with a single key")
      else
        match members with
        | [] => stopAt ((stop.map Flaw.reading).getD .keyNotString)
        | (.error fault, _) :: _ => stopAt fault
        | (.ok name, value) :: rest => do
            let name ← knownVariant known name
            nothing site.inner value
            match rest, stop.map Flaw.reading with
            | [], none => .ok name
            | [], some .endInObject => stopAt .endInObject
            | _, _ => stopAt .noValue
  | site, j =>
      if site.kept then wrongKind "string or map" j
      else match j with
        | .broken flaw => stopAt flaw.reading
        | _ => stopAt .noValue

/-- The value of a document and nothing else; what follows the document is an error. -/
def Decoder.whole (d : Decoder α) (r : Read) : Except Error α := do
  let a ← d .top r.1
  if (skipBlank (r.2.getD [])).isEmpty then .ok a else stopAt .trailingCharacters

/-- The value a text stands for. -/
def decode (d : Decoder α) (text : String) : Except Error α := d.whole (read text)

/-- The value that bytes stand for. -/
def decodeBytes (d : Decoder α) (bytes : ByteArray) : Except Error α := d.whole (readBytes bytes)

/-- The value at the front of bytes, whatever follows it. -/
def decodeFront (d : Decoder α) (bytes : ByteArray) : Except Error α := d .top (readBytes bytes).1

end SealedTree.Json
