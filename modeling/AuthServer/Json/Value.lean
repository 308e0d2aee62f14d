import AuthServer.Json.Typed
import AuthServer.Json.Writer

/-!
Values of any type. An object keeps its members as they were read; in its written form the keys are
sorted, and of members with one key the last one counts.
-/

namespace AuthServer.Json

inductive Value where
  | null
  | boolean (value : Bool)
  | number (value : Number)
  | string (value : String)
  | list (items : List Value)
  | object (members : List (String × Value))

namespace Value

mutual

/-- Read a value; each step reads at least one byte or opens a container, so that `fuel` need not
exceed the number of bytes by much. -/
def readWith : (fuel : Nat) → (depth : Nat) → Reader Value
  | 0, _, bytes => failAt .unfinishedValue bytes
  | fuel + 1, depth, bytes =>
      match skipBlanks bytes with
      | [] => failAt .unfinishedValue []
      | byte :: rest =>
          if byte = 0x6E then word nullTail .null rest
          else if byte = 0x74 then word trueTail (.boolean true) rest
          else if byte = 0x66 then word falseTail (.boolean false) rest
          else if startsNumber byte then
            match readNumber (byte :: rest) with
            | .error failure => .error failure
            | .ok (numeral, rest) => .ok (.number numeral, rest)
          else if byte = 0x22 then
            match readString rest with
            | .error failure => .error failure
            | .ok (text, rest) => .ok (.string text, rest)
          else if byte = 0x5B then
            if depth ≤ 1 then failAt .tooDeep (byte :: rest)
            else readListWith fuel (depth - 1) 0 [] rest
          else if byte = 0x7B then
            if depth ≤ 1 then failAt .tooDeep (byte :: rest)
            else readObjectWith fuel (depth - 1) true [] rest
          else failAt .expectedValue (byte :: rest)

def readListWith : (fuel : Nat) → (depth position : Nat) → List Value → Reader Value
  | 0, _, _, _, bytes => failAt .unfinishedList bytes
  | fuel + 1, depth, position, reversed, bytes =>
      match nextItem (position == 0) bytes with
      | .error failure => .error failure
      | .ok (false, rest) => .ok (.list reversed.reverse, rest.drop 1)
      | .ok (true, rest) =>
          match readWith fuel depth rest with
          | .error failure => .error (failure.under (.index position))
          | .ok (item, rest) => readListWith fuel depth (position + 1) (item :: reversed) rest

def readObjectWith : (fuel : Nat) → (depth : Nat) → (isFirst : Bool) → List (String × Value) →
    Reader Value
  | 0, _, _, _, bytes => failAt .unfinishedObject bytes
  | fuel + 1, depth, isFirst, reversed, bytes =>
      match nextKey isFirst bytes with
      | .error failure => .error (failure.under .unknown)
      | .ok (none, rest) => .ok (.object reversed.reverse, rest.drop 1)
      | .ok (some name, rest) =>
          match skipColon rest with
          | .error failure => .error (failure.under (.key name))
          | .ok rest =>
              match readWith fuel depth rest with
              | .error failure => .error (failure.under (.key name))
              | .ok (value, rest) =>
                  readObjectWith fuel depth false ((name, value) :: reversed) rest

def word (letters : List UInt8) (value : Value) : Reader Value := fun bytes =>
  match readWord letters bytes with
  | .error failure => .error failure
  | .ok rest => .ok (value, rest)

end

def read (depth : Nat) : Reader Value := fun bytes =>
  readWith (2 * bytes.length + 1) depth bytes

def insertSorted (name text : String) : List (String × String) → List (String × String)
  | [] => [(name, text)]
  | (other, value) :: rest =>
      if name < other then (name, text) :: (other, value) :: rest
      else if name = other then (name, text) :: rest
      else (other, value) :: insertSorted name text rest

mutual

def json : Value → String
  | .null => "null"
  | .boolean value => toString value
  | .number value => value.text
  | .string value => stringText value
  | .list items => listText (jsonItems items)
  | .object members => objectText (jsonMembers members)

def jsonItems : List Value → List String
  | [] => []
  | item :: items => json item :: jsonItems items

def jsonMembers (members : List (String × Value)) : List (String × String) :=
  sortOnto [] members

def sortOnto (sorted : List (String × String)) : List (String × Value) → List (String × String)
  | [] => sorted
  | (name, value) :: members => sortOnto (insertSorted name (json value) sorted) members

end

end Value

end AuthServer.Json
