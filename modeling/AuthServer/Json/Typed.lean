import AuthServer.Json.Skip

/-!
Reading values of a known type: texts, integers, lists and records. A record is read from an object,
or from an array of its fields in order. Containers may nest to a limited depth.
-/

namespace AuthServer.Json

def depthLimit : Nat := 128

/-- The failure for a value of another type than the expected one. A scalar counts as read, a
container does not. -/
def wrongType {α : Type} (expected : String) (byte : UInt8) (rest : List UInt8) :
    Except Failure α :=
  let word (letters : List UInt8) (found : Found) : Except Failure α :=
    match readWord letters rest with
    | .error failure => .error failure
    | .ok rest => failBefore (.invalidType found expected) rest
  if byte = 0x6E then word nullTail .null
  else if byte = 0x74 then word trueTail (.boolean true)
  else if byte = 0x66 then word falseTail (.boolean false)
  else if startsNumber byte then
    match readNumber (byte :: rest) with
    | .error failure => .error failure
    | .ok (number, rest) => failBefore (.invalidType number.found expected) rest
  else if byte = 0x22 then
    match readString rest with
    | .error failure => .error failure
    | .ok (text, rest) => failBefore (.invalidType (.string text) expected) rest
  else if byte = 0x5B then failBefore (.invalidType .sequence expected) (byte :: rest)
  else if byte = 0x7B then failBefore (.invalidType .map expected) (byte :: rest)
  else failAt .expectedValue (byte :: rest)

def readText (expected : String) : Reader String := fun bytes =>
  match skipBlanks bytes with
  | [] => failAt .unfinishedValue []
  | byte :: rest => if byte = 0x22 then readString rest else wrongType expected byte rest

def readInt64 : Reader Int64 := fun bytes =>
  match skipBlanks bytes with
  | [] => failAt .unfinishedValue []
  | byte :: rest =>
      if startsNumber byte then
        match readNumber (byte :: rest) with
        | .error failure => .error failure
        | .ok (.natural value, rest) =>
            if value < 0x8000000000000000 then .ok (Int64.ofNat value, rest)
            else failBefore (.invalidValue value "i64") rest
        | .ok (.negative value, rest) => .ok (Int64.ofInt value, rest)
        | .ok (number, rest) => failBefore (.invalidType number.found "i64") rest
      else wrongType "i64" byte rest

def readNull : Reader Unit := fun bytes =>
  match skipBlanks bytes with
  | [] => failAt .unfinishedValue []
  | byte :: rest =>
      if byte = 0x6E then
        match readWord nullTail rest with
        | .error failure => .error failure
        | .ok rest => .ok ((), rest)
      else wrongType "unit" byte rest

def readOptional {α : Type} (read : Reader α) : Reader (Option α) := fun bytes =>
  match skipBlanks bytes with
  | 0x6E :: rest =>
      match readWord nullTail rest with
      | .error failure => .error failure
      | .ok rest => .ok (none, rest)
  | rest =>
      match read rest with
      | .error failure => .error failure
      | .ok (value, rest) => .ok (some value, rest)

def enter {α : Type} (depth : Nat) (bytes : List UInt8)
    (inside : (depth : Nat) → Except Failure α) : Except Failure α :=
  if depth ≤ 1 then failAt .tooDeep bytes else inside (depth - 1)

/-! ## Lists -/

/-- Go to the next item of a list: past a comma unless it is the first. `none` when the list ends
here, with its bracket unread. -/
def nextItem (isFirst : Bool) : Reader Bool := fun bytes =>
  match skipBlanks bytes with
  | [] => failAt .unfinishedList []
  | byte :: rest =>
      if byte = 0x5D then .ok (false, byte :: rest)
      else if isFirst then .ok (true, byte :: rest)
      else if byte = 0x2C then
        match skipBlanks rest with
        | [] => failAt .unfinishedValue []
        | next :: after =>
            if next = 0x5D then failAt .trailingComma (next :: after)
            else .ok (true, next :: after)
      else failAt .expectedCommaOrBracket (byte :: rest)

/-- Where reading stands after leaving a list, and why it could not be left if it could not. -/
def leaveList (bytes : List UInt8) : Option Failure × List UInt8 :=
  let failed (cause : Cause) (rest : List UInt8) : Option Failure × List UInt8 :=
    (some ⟨cause, rest.length - 1, []⟩, rest)
  match skipBlanks bytes with
  | [] => failed .unfinishedList []
  | byte :: rest =>
      if byte = 0x5D then (none, rest)
      else if byte = 0x2C then
        match skipBlanks rest with
        | 0x5D :: after => failed .trailingComma (0x5D :: after)
        | rest => failed .trailingCharacters rest
      else failed .trailingCharacters (byte :: rest)

def leaveObject (bytes : List UInt8) : Option Failure × List UInt8 :=
  match skipBlanks bytes with
  | [] => (some ⟨.unfinishedObject, 0, []⟩, [])
  | byte :: rest =>
      if byte = 0x7D then (none, rest)
      else
        let cause := if byte = 0x2C then Cause.trailingComma else .trailingCharacters
        (some ⟨cause, rest.length, []⟩, byte :: rest)

def readItems {α : Type} (read : Reader α) : (fuel : Nat) → (reversed : List α) → Reader (List α)
  | 0, _, bytes => failAt .unfinishedList bytes
  | fuel + 1, reversed, bytes =>
      match nextItem reversed.isEmpty bytes with
      | .error failure => .error failure
      | .ok (false, rest) => .ok (reversed.reverse, rest)
      | .ok (true, rest) =>
          match read rest with
          | .error failure => .error (failure.under (.index reversed.length))
          | .ok (item, rest) => readItems read fuel (item :: reversed) rest

def readList {α : Type} (read : (depth : Nat) → Reader α) (depth : Nat) : Reader (List α) :=
  fun bytes =>
    match skipBlanks bytes with
    | [] => failAt .unfinishedValue []
    | byte :: rest =>
        if byte = 0x5B then
          enter depth (byte :: rest) fun depth =>
            match readItems (read depth) (rest.length + 1) [] rest with
            | .error failure => .error failure
            | .ok (items, rest) =>
                match leaveList rest with
                | (none, rest) => .ok (items, rest)
                | (some failure, _) => .error failure
        else wrongType "a sequence" byte rest

/-! ## Members of objects -/

def nextKey (isFirst : Bool) : Reader (Option String) := fun bytes =>
  match skipBlanks bytes with
  | [] => failAt .unfinishedObject []
  | byte :: rest =>
      if byte = 0x7D then .ok (none, byte :: rest)
      else if isFirst then key byte rest
      else if byte = 0x2C then
        match skipBlanks rest with
        | [] => failAt .unfinishedValue []
        | next :: after =>
            if next = 0x7D then failAt .trailingComma (next :: after) else key next after
      else failAt .expectedCommaOrBrace (byte :: rest)
where
  key (byte : UInt8) (rest : List UInt8) : Except Failure (Option String × List UInt8) :=
    if byte = 0x22 then
      match readString rest with
      | .error failure => .error failure
      | .ok (name, rest) => .ok (some name, rest)
    else failAt .keyNotString (byte :: rest)

def skipColon (bytes : List UInt8) : Except Failure (List UInt8) :=
  match skipBlanks bytes with
  | [] => failAt .unfinishedObject []
  | byte :: rest => if byte = 0x3A then .ok rest else failAt .expectedColon (byte :: rest)

/-! ## Names from a fixed choice -/

structure Choice (α : Type) where
  ofName? : String → Option α
  nameOf : α → String
  names : String

namespace Choice

variable {α : Type}

def readName (choice : Choice α) : Reader α := fun bytes =>
  match readText "variant identifier" bytes with
  | .error failure => .error failure
  | .ok (name, rest) =>
      match choice.ofName? name with
      | some value => .ok (value, rest)
      | none => failBefore (.unknownVariant name choice.names) rest

/-- Read the object form of a name after its brace: the name is the only key and has no value. -/
def readKeyed (choice : Choice α) : Reader α := fun bytes =>
  match choice.readName bytes with
  | .error failure => .error failure
  | .ok (value, rest) =>
      match skipColon rest with
      | .error failure => .error failure
      | .ok rest =>
          match readNull rest with
          | .error failure => .error (failure.under (.key (choice.nameOf value)))
          | .ok ((), rest) =>
              match skipBlanks rest with
              | 0x7D :: after => .ok (value, after)
              | [] => failBefore .unfinishedObject []
              | rest => failBefore .expectedValue rest

def read (choice : Choice α) (depth : Nat) : Reader α := fun bytes =>
  match skipBlanks bytes with
  | [] => failAt .unfinishedValue []
  | byte :: rest =>
      if byte = 0x7B then enter depth (byte :: rest) fun _ => choice.readKeyed rest
      else if byte = 0x22 then choice.readName (byte :: rest)
      else failAt .expectedValue (byte :: rest)

end Choice

/-! ## Records -/

/-- One field of a record: its name, whether it may be missing, and how its value is put into a
draft of the record. -/
structure RecordField (δ : Type) where
  name : String
  mayMiss : Bool
  isRead : δ → Bool
  read : (depth : Nat) → Reader (δ → δ)

def RecordField.of {δ α : Type} (name : String) (get : δ → Option α) (set : α → δ → δ)
    (read : (depth : Nat) → Reader α) : RecordField δ where
  name := name
  mayMiss := false
  isRead draft := (get draft).isSome
  read depth bytes :=
    match read depth bytes with
    | .error failure => .error failure
    | .ok (value, rest) => .ok (set value, rest)

def RecordField.optional {δ : Type} (field : RecordField δ) : RecordField δ :=
  { field with mayMiss := true }

/-- How a record is read: through a draft that starts empty and is finished when all fields were
read, unless one is missing. -/
structure Shape (δ α : Type) where
  name : String
  fields : List (RecordField δ)
  passOver : List UInt8 → Except Failure (List UInt8)
  start : δ
  finish : δ → Except String α

def required {α : Type} (name : String) : Option α → Except String α
  | some value => .ok value
  | none => .error name

namespace Shape

variable {δ α : Type}

def close (shape : Shape δ α) (draft : δ) : Except Cause α :=
  (shape.finish draft).mapError .missingField

/-- What the members of an object came to: a draft, or a complaint about the record as a whole,
which is placed after the object was left. -/
abbrev Members (δ : Type) := Except Cause δ

def readMember (shape : Shape δ α) (field : Option (RecordField δ)) (depth : Nat) (draft : δ) :
    Reader δ := fun bytes =>
  match skipColon bytes with
  | .error failure => .error failure
  | .ok rest =>
      match field with
      | none =>
          match shape.passOver rest with
          | .error failure => .error failure
          | .ok rest => .ok (draft, rest)
      | some field =>
          match field.read depth rest with
          | .error failure => .error failure
          | .ok (update, rest) => .ok (update draft, rest)

def readMembers (shape : Shape δ α) (depth : Nat) :
    (fuel : Nat) → (isFirst : Bool) → δ → Reader (Members δ)
  | 0, _, _, bytes => failAt .unfinishedObject bytes
  | fuel + 1, isFirst, draft, bytes =>
      match nextKey isFirst bytes with
      | .error failure => .error (failure.under .unknown)
      | .ok (none, rest) => .ok (.ok draft, rest)
      | .ok (some name, rest) =>
          let field := shape.fields.find? (·.name == name)
          if field.any (·.isRead draft) then .ok (.error (.duplicateField name), rest)
          else
            match shape.readMember field depth draft rest with
            | .error failure => .error (failure.under (.key name))
            | .ok (draft, rest) => readMembers shape depth fuel false draft rest

def readPositions (shape : Shape δ α) (depth : Nat) :
    List (RecordField δ) → (position : Nat) → δ → Reader (Members δ)
  | [], _, draft, bytes => .ok (.ok draft, bytes)
  | field :: fields, position, draft, bytes =>
      match nextItem (position == 0) bytes with
      | .error failure => .error failure
      | .ok (false, rest) =>
          if field.mayMiss then readPositions shape depth fields (position + 1) draft rest
          else
            .ok (.error (.invalidLength position
              s!"struct {shape.name} with {shape.fields.length} elements"), rest)
      | .ok (true, rest) =>
          match field.read depth rest with
          | .error failure => .error (failure.under (.index position))
          | .ok (update, rest) =>
              readPositions shape depth fields (position + 1) (update draft) rest

/-- Leave a container and finish the record. A complaint about the record wins over a container that
cannot be left. -/
def settle (shape : Shape δ α) (members : Members δ) (left : Option Failure × List UInt8) :
    Except Failure (α × List UInt8) :=
  match members.bind shape.close, left with
  | .error cause, (_, rest) => failBefore cause rest
  | .ok _, (some failure, _) => .error failure
  | .ok record, (none, rest) => .ok (record, rest)

def readObject (shape : Shape δ α) (depth : Nat) (rest : List UInt8) :
    Except Failure (α × List UInt8) :=
  match shape.readMembers depth (rest.length + 1) true shape.start rest with
  | .error failure => .error failure
  | .ok (members, rest) => shape.settle members (leaveObject rest)

def readArray (shape : Shape δ α) (depth : Nat) (rest : List UInt8) :
    Except Failure (α × List UInt8) :=
  match shape.readPositions depth shape.fields 0 shape.start rest with
  | .error failure => .error failure
  | .ok (members, rest) => shape.settle members (leaveList rest)

def read (shape : Shape δ α) (depth : Nat) : Reader α := fun bytes =>
  match skipBlanks bytes with
  | [] => failAt .unfinishedValue []
  | byte :: rest =>
      if byte = 0x7B then enter depth (byte :: rest) fun depth => shape.readObject depth rest
      else if byte = 0x5B then enter depth (byte :: rest) fun depth => shape.readArray depth rest
      else wrongType s!"struct {shape.name}" byte rest

end Shape

/-! ## Documents -/

def readDocument {α : Type} (read : (depth : Nat) → Reader α) (document : List UInt8) :
    Except Failure α :=
  match read depthLimit document with
  | .error failure => .error failure
  | .ok (value, rest) =>
      match skipBlanks rest with
      | [] => .ok value
      | rest => failAt .trailingCharacters rest

end AuthServer.Json
