import SealedTree.Json.Decoder

/-!
Values of several forms, where a name in the document says which form it is. The name stands beside
the content of the form in one of two ways: the content is a member of its own, or what is left of
the value is the content.
-/

namespace SealedTree.Json

/-- A name given as a text, or in a kept value by its number. -/
def nameOf (known : List String) : Decoder String
  | _, .string s => knownVariant known s
  | site, .number (.integer i) =>
      if site.kept ∧ 0 ≤ i then
        match known[i.toNat]? with
        | some name => .ok name
        | none =>
            fail (.wrongValue (.number (.integer i))
              ("variant index 0 <= i < " ++ toString known.length))
      else wrongKind "variant identifier" (.number (.integer i))
  | _, j => wrongKind "variant identifier" j

def emptyForm (title : String) (a : α) : Decoder α
  | _, .null => .ok a
  | _, j => wrongKind title j

/-- A value with the name of its form in one member and the content in another. -/
structure Paired (α : Type) where
  title : String
  nameField : String
  contentField : String
  forms : List String
  content : (form : String) → Decoder α
  /-- The value of a form that comes without the member for the content. -/
  alone : (form : String) → Except Error α

namespace Paired

/-- How much of a value has been read. Content that comes before the name is kept. -/
inductive Progress (α : Type)
  | start
  | named (form : String)
  | held (content : Json)
  | complete (value : α)

def members (p : Paired α) (site : Site) (stop : Option Flaw) :
    Progress α → List (Except Fault String × Json) → Except Error α
  | progress, [] => do
      ending stop
      match progress with
      | .start | .held _ => fail (.missingField p.nameField)
      | .named form => p.alone form
      | .complete a => .ok a
  | _, (.error fault, _) :: _ => stopAt fault
  | progress, (.ok name, value) :: rest =>
      if name = p.nameField then
        match progress with
        | .start => do
            let form ← within (.name name) (variant p.forms site.inner value)
            members p site stop (.named form) rest
        | .held content => do
            let form ← within (.name name) (variant p.forms site.inner value)
            let a ← p.content form site.inner.keeping content
            members p site stop (.complete a) rest
        | .named _ | .complete _ => fail (.duplicateField name)
      else if name = p.contentField then
        match progress with
        | .start => do
            keep site.inner.depth value
            members p site stop (.held value) rest
        | .named form => do
            let a ← within (.name name) (p.content form site.inner value)
            members p site stop (.complete a) rest
        | .held _ | .complete _ => fail (.duplicateField name)
      else do
        skip value
        members p site stop progress rest

def items (p : Paired α) (site : Site) (stop : Option Flaw) : List Json → Except Error α
  | [] => do
      ending stop
      fail (.wrongLength 0 p.title)
  | name :: rest => do
      let form ← within (.index 0) (nameOf p.forms site.inner name)
      match rest with
      | [] => do
          ending stop
          fail (.wrongLength 1 p.title)
      | content :: rest => do
          let a ← within (.index 1) (p.content form site.inner content)
          endingAfter site 2 rest stop
          .ok a

def decoder (p : Paired α) : Decoder α
  | site, .array items stop => p.items site stop items
  | site, .object members stop => p.members site stop .start members
  | _, j => wrongKind p.title j

end Paired

/-- A value with the name of its form in one member; the others are the content. -/
structure Mixed (α : Type) where
  title : String
  nameField : String
  forms : List String
  content : (form : String) → Decoder α

namespace Mixed

def members (m : Mixed α) (site : Site) (stop : Option Flaw) :
    (form : Option String) → List (Except Fault String × Json) →
      Except Error (String × List (Except Fault String × Json))
  | form, [] => do
      ending stop
      match form with
      | none => fail (.missingField m.nameField)
      | some form => .ok (form, [])
  | _, (.error fault, _) :: _ => stopAt fault
  | form, (.ok name, value) :: rest =>
      if name = m.nameField then
        match form with
        | some _ => fail (.duplicateField name)
        | none => do
            let form ← within (.name name) (nameOf m.forms site.inner value)
            members m site stop (some form) rest
      else do
        keep site.inner.depth value
        let (form, others) ← members m site stop form rest
        .ok (form, (.ok name, value) :: others)

def decoder (m : Mixed α) : Decoder α
  | _, .array [] stop => do
      ending stop
      fail (.missingField m.nameField)
  | site, .array (name :: rest) stop => do
      let form ← within (.index 0) (nameOf m.forms site.inner name)
      keepItems site.inner.depth rest
      ending stop
      m.content form site.keeping (.array rest none)
  | site, .object members stop => do
      let (form, others) ← m.members site stop none members
      m.content form site.keeping (.object others none)
  | _, j => wrongKind m.title j

/-- The content of a form that has none: no item, or any members. -/
def nothing (a : α) : Decoder α
  | site, .array items stop => do
      endingAfter site 0 items stop
      .ok a
  | _, _ => .ok a

end Mixed

end SealedTree.Json
