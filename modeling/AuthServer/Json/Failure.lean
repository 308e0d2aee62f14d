import AuthServer.Text.Quoted

/-!
Why a JSON text could not be read, and where. A failure counts the bytes that were still unread, so
that it can be made without knowing the whole text; its place in lines and columns, and its path
through the document, are worked out when it is shown.
-/

namespace AuthServer.Json

inductive Found where
  | null
  | boolean (value : Bool)
  | integer (value : Int)
  | floating (text : String)
  | string (value : String)
  | sequence
  | map
deriving DecidableEq, Repr

inductive Cause where
  | unfinishedList
  | unfinishedObject
  | unfinishedString
  | unfinishedValue
  | expectedColon
  | expectedCommaOrBracket
  | expectedCommaOrBrace
  | expectedWord
  | expectedValue
  | invalidEscape
  | invalidNumber
  | numberOutOfRange
  | invalidCodePoint
  | controlCharacter
  | keyNotString
  | loneSurrogate
  | unfinishedEscape
  | trailingComma
  | trailingCharacters
  | tooDeep
  | invalidType (found : Found) (expected : String)
  | invalidValue (value : Nat) (expected : String)
  | invalidLength (length : Nat) (expected : String)
  | missingField (name : String)
  | duplicateField (name : String)
  | unknownVariant (name : String) (expected : String)
  | refused (reason : String)
deriving DecidableEq, Repr

/-- The three kinds of failure: a text that ends too soon, a text that is not JSON, and a value
that does not fit. -/
inductive Category where
  | ended
  | syntactic
  | data
deriving DecidableEq, Repr

def Cause.category : Cause → Category
  | .unfinishedList | .unfinishedObject | .unfinishedString | .unfinishedValue => .ended
  | .invalidType .. | .invalidValue .. | .invalidLength .. | .missingField _
  | .duplicateField _ | .unknownVariant .. | .refused _ => .data
  | _ => .syntactic

def Found.text : Found → String
  | .null => "null"
  | .boolean value => s!"boolean `{value}`"
  | .integer value => s!"integer `{value}`"
  | .floating text => s!"floating point `{text}`"
  | .string value => s!"string {Text.quote value}"
  | .sequence => "sequence"
  | .map => "map"

def Cause.message : Cause → String
  | .unfinishedList => "EOF while parsing a list"
  | .unfinishedObject => "EOF while parsing an object"
  | .unfinishedString => "EOF while parsing a string"
  | .unfinishedValue => "EOF while parsing a value"
  | .expectedColon => "expected `:`"
  | .expectedCommaOrBracket => "expected `,` or `]`"
  | .expectedCommaOrBrace => "expected `,` or `\x7d`"
  | .expectedWord => "expected ident"
  | .expectedValue => "expected value"
  | .invalidEscape => "invalid escape"
  | .invalidNumber => "invalid number"
  | .numberOutOfRange => "number out of range"
  | .invalidCodePoint => "invalid unicode code point"
  | .controlCharacter => "control character (\\u0000-\\u001F) found while parsing a string"
  | .keyNotString => "key must be a string"
  | .loneSurrogate => "lone leading surrogate in hex escape"
  | .unfinishedEscape => "unexpected end of hex escape"
  | .trailingComma => "trailing comma"
  | .trailingCharacters => "trailing characters"
  | .tooDeep => "recursion limit exceeded"
  | .invalidType found expected => s!"invalid type: {found.text}, expected {expected}"
  | .invalidValue value expected => s!"invalid value: integer `{value}`, expected {expected}"
  | .invalidLength length expected => s!"invalid length {length}, expected {expected}"
  | .missingField name => s!"missing field `{name}`"
  | .duplicateField name => s!"duplicate field `{name}`"
  | .unknownVariant name expected => s!"unknown variant `{name}`, expected {expected}"
  | .refused reason => reason

inductive Segment where
  | key (name : String)
  | index (position : Nat)
  | unknown
deriving DecidableEq, Repr

/-- A failure to read: why, with how many bytes left, and where in the document. -/
structure Failure where
  cause : Cause
  unread : Nat
  path : List Segment
deriving DecidableEq, Repr

namespace Failure

def under (segment : Segment) (failure : Failure) : Failure :=
  { failure with path := segment :: failure.path }

/-- The line and the column of a failure: the number of the line, and how many of its bytes had been
read. -/
def place (document : List UInt8) (failure : Failure) : Nat × Nat :=
  (document.take (document.length - failure.unread)).foldl
    (fun (place : Nat × Nat) byte =>
      if byte = 0x0A then (place.1 + 1, 0) else (place.1, place.2 + 1))
    (1, 0)

def message (document : List UInt8) (failure : Failure) : String :=
  let (line, column) := failure.place document
  s!"{failure.cause.message} at line {line} column {column}"

def segmentText (before : String) : Segment → String
  | .key name => if before.isEmpty then name else before ++ "." ++ name
  | .index position => before ++ s!"[{position}]"
  | .unknown => if before.isEmpty then "?" else before ++ ".?"

def pathText (failure : Failure) : Option String :=
  if failure.path.all (· == .unknown) then none
  else some (failure.path.foldl segmentText "")

def locatedMessage (document : List UInt8) (failure : Failure) : String :=
  match failure.pathText with
  | some path => s!"{path}: {failure.message document}"
  | none => failure.message document

end Failure

/-- A reader takes what it needs from the front of the bytes and leaves the rest. -/
abbrev Reader (α : Type) := List UInt8 → Except Failure (α × List UInt8)

def failBefore {α : Type} (cause : Cause) (rest : List UInt8) : Except Failure α :=
  .error ⟨cause, rest.length, []⟩

def failAt {α : Type} (cause : Cause) (rest : List UInt8) : Except Failure α :=
  .error ⟨cause, rest.length - 1, []⟩

end AuthServer.Json
