/-!
The ways in which a text can stop being a JSON document.
-/

namespace SealedTree.Json

inductive Fault
  | endInArray
  | endInObject
  | endInString
  | endInValue
  | noColon
  | noArrayEnd
  | noObjectEnd
  | unknownWord
  | noValue
  | badEscape
  | badCodeUnit
  | badCodePoint
  | badNumber
  | numberTooLarge
  | controlCharacter
  | keyNotString
  | loneSurrogate
  | halfSurrogatePair
  | trailingComma
  | trailingCharacters
  | tooDeep
  deriving DecidableEq

def Fault.message : Fault → String
  | .endInArray => "EOF while parsing a list"
  | .endInObject => "EOF while parsing an object"
  | .endInString => "EOF while parsing a string"
  | .endInValue => "EOF while parsing a value"
  | .noColon => "expected `:`"
  | .noArrayEnd => "expected `,` or `]`"
  | .noObjectEnd => "expected `,` or `\x7d`"
  | .unknownWord => "expected ident"
  | .noValue => "expected value"
  | .badEscape | .badCodeUnit => "invalid escape"
  | .badCodePoint => "invalid unicode code point"
  | .badNumber => "invalid number"
  | .numberTooLarge => "number out of range"
  | .controlCharacter => "control character (\\u0000-\\u001F) found while parsing a string"
  | .keyNotString => "key must be a string"
  | .loneSurrogate => "lone leading surrogate in hex escape"
  | .halfSurrogatePair => "unexpected end of hex escape"
  | .trailingComma => "trailing comma"
  | .trailingCharacters => "trailing characters"
  | .tooDeep => "recursion limit exceeded"

/-- A place where a text stops being JSON, as it is noticed by who wants the value there, and by who
passes over it. -/
structure Flaw where
  reading : Fault
  passing : Fault
  deriving DecidableEq

/-- A flaw that looks the same to both. -/
def Fault.always (fault : Fault) : Flaw := ⟨fault, fault⟩

end SealedTree.Json
