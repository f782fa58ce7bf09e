import SealedTree.Text.Quoted
import SealedTree.Decimal.Layout
import SealedTree.Json.Basic

/-!
Why a document is not what its reader asked for: the text is no JSON, or a value in it is of the
wrong kind, in the wrong number, under the wrong name, or refused for what it says.
-/

namespace SealedTree.Json

inductive Found
  | null
  | bool (value : Bool)
  | number (value : Number)
  | string (value : String)
  | sequence
  | map
  deriving DecidableEq

def Found.message : Found → String
  | .null => "null"
  | .bool true => "boolean `true`"
  | .bool false => "boolean `false`"
  | .number (.integer i) => "integer `" ++ toString i ++ "`"
  | .number (.real x) => "floating point `" ++ Decimal.Layout.document.write x ++ "`"
  | .string s => "string " ++ Text.quoted s
  | .sequence => "sequence"
  | .map => "map"

inductive Mismatch
  | wrongKind (found : Found) (expected : String)
  /-- A value of the right kind that is out of bounds. -/
  | wrongValue (found : Found) (expected : String)
  | wrongLength (length : Nat) (expected : String)
  | missingField (name : String)
  | duplicateField (name : String)
  | unknownVariant (name : String) (known : List String)
  | noVariantOf (name : String)
  | refused (message : String)
  deriving DecidableEq

def ticked (name : String) : String := "`" ++ name ++ "`"

def choices : List String → String
  | [] => "there are no variants"
  | [a] => "expected " ++ ticked a
  | [a, b] => "expected " ++ ticked a ++ " or " ++ ticked b
  | names => "expected one of " ++ ", ".intercalate (names.map ticked)

def Mismatch.message : Mismatch → String
  | .wrongKind found expected => "invalid type: " ++ found.message ++ ", expected " ++ expected
  | .wrongValue found expected => "invalid value: " ++ found.message ++ ", expected " ++ expected
  | .wrongLength length expected =>
      "invalid length " ++ toString length ++ ", expected " ++ expected
  | .missingField name => "missing field " ++ ticked name
  | .duplicateField name => "duplicate field " ++ ticked name
  | .unknownVariant name known => "unknown variant " ++ ticked name ++ ", " ++ choices known
  | .noVariantOf name => "data did not match any variant of untagged enum " ++ name
  | .refused message => message

inductive Step
  | name (name : String)
  | index (index : Nat)
  deriving DecidableEq

def Step.text : Step → String
  | .name n => n
  | .index i => "[" ++ toString i ++ "]"

def wayText : List Step → String
  | [] => ""
  | s :: .name n :: rest => s.text ++ "." ++ wayText (.name n :: rest)
  | s :: rest => s.text ++ wayText rest

inductive Error
  | malformed (fault : Fault)
  | mismatch (mismatch : Mismatch) (way : List Step)
  deriving DecidableEq

def Error.message : Error → String
  | .malformed fault => fault.message
  | .mismatch m _ => m.message

/-- The same error, seen from the value around. -/
def Error.inside (step : Step) : Error → Error
  | .malformed fault => .malformed fault
  | .mismatch m way => .mismatch m (step :: way)

end SealedTree.Json
