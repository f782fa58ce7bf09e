import SealedTree.Disk
import SealedTree.Json.Printer
import SealedTree.Model.Document
import SealedTree.Settings.Document

/-!
What users hand to the program: files with settings and models, addresses, numbers. A file holds one
document, in UTF-8.
-/

namespace SealedTree

inductive InputError
  | io (reason : String)
  | json (error : Json.Error)
  | address (reason : String)
  | config (reason : String)
  | shape (error : ShapeError)
  | payload (error : PayloadError)

def InputError.message : InputError → String
  | .io reason => "IO error: " ++ reason
  | .json e => "JSON error: " ++ e.message
  | .address reason => "Invalid address: " ++ reason
  | .config reason => "Invalid config: " ++ reason
  | .shape e => e.message
  | .payload e => e.message

def fileText (bytes : ByteArray) : Except InputError String :=
  match String.fromUTF8? bytes with
  | some text => .ok text
  | none => .error (.io "stream did not contain valid UTF-8")

theorem fileText_toUTF8 (text : String) : fileText text.toUTF8 = .ok text := by
  have read : String.fromUTF8? text.toUTF8 = some text := dif_pos text.isValidUTF8
  rw [fileText, read]

namespace Model

def ofText (text : String) : Except InputError Model :=
  (Json.decode decoder text).mapError .json

def ofFile (bytes : ByteArray) : Except InputError Model := do
  ofText (← fileText bytes)

def toText (m : Model) : String := m.json.pretty

def load (d : Disk) (path : String) : Except InputError Model := do
  ofFile (← (d.read path).mapError fun fault => .io fault.message)

/-- The disk with the model in the file. -/
def save (m : Model) (d : Disk) (path : String) : Except DiskFault Disk :=
  d.write path m.toText.toUTF8

end Model

namespace Settings

/-- Settings that contradict themselves are refused. -/
def ofText (text : String) : Except InputError Settings := do
  let settings ← (Json.decode decoder text).mapError InputError.json
  settings.validate.mapError fun e => .config e.reason
  .ok settings

def ofFile (bytes : ByteArray) : Except InputError Settings := do
  ofText (← fileText bytes)

def toText (s : Settings) : String := s.json.pretty

def load (d : Disk) (path : String) : Except InputError Settings := do
  ofFile (← (d.read path).mapError fun fault => .io fault.message)

/-- The disk with the settings in the file. Settings that contradict themselves are written too. -/
def save (s : Settings) (d : Disk) (path : String) : Except DiskFault Disk :=
  d.write path s.toText.toUTF8

end Settings

end SealedTree
