import AuthServer.Json.Number
import AuthServer.Json.String

/-!
Passing over a value that nobody asked for. It must be well formed, but its numbers may be out of
range, its strings may hold lone surrogates or bytes that are no text, and it may nest to any depth:
the containers that are open are kept in a list.
-/

namespace AuthServer.Json

def isBlank (byte : UInt8) : Bool :=
  byte == 0x20 || byte == 0x0A || byte == 0x09 || byte == 0x0D

def skipBlanks : List UInt8 → List UInt8
  | byte :: rest => if isBlank byte then skipBlanks rest else byte :: rest
  | [] => []

def readWord : (letters : List UInt8) → List UInt8 → Except Failure (List UInt8)
  | [], bytes => .ok bytes
  | _ :: _, [] => failBefore .unfinishedValue []
  | letter :: letters, byte :: rest =>
      if byte = letter then readWord letters rest else failBefore .expectedWord rest

def nullTail : List UInt8 := [0x75, 0x6C, 0x6C]
def trueTail : List UInt8 := [0x72, 0x75, 0x65]
def falseTail : List UInt8 := [0x61, 0x6C, 0x73, 0x65]

def skipExponent (bytes : List UInt8) : Except Failure (List UInt8) :=
  let digits :=
    match bytes with
    | 0x2B :: rest | 0x2D :: rest => rest
    | _ => bytes
  match digits with
  | [] => failBefore .invalidNumber []
  | byte :: rest =>
      if (digit? byte).isSome then .ok (skipDigits rest) else failBefore .invalidNumber rest

def skipExponentPart : List UInt8 → Except Failure (List UInt8)
  | 0x65 :: rest | 0x45 :: rest => skipExponent rest
  | rest => .ok rest

def skipFraction : List UInt8 → Except Failure (List UInt8)
  | [] => failAt .invalidNumber []
  | byte :: rest =>
      if (digit? byte).isSome then skipExponentPart (skipDigits rest)
      else failAt .invalidNumber (byte :: rest)

def skipAfterInteger : List UInt8 → Except Failure (List UInt8)
  | 0x2E :: rest => skipFraction rest
  | rest => skipExponentPart rest

def skipUnsigned : List UInt8 → Except Failure (List UInt8)
  | [] => failBefore .invalidNumber []
  | 0x30 :: rest =>
      match rest with
      | byte :: _ =>
          if (digit? byte).isSome then failAt .invalidNumber rest else skipAfterInteger rest
      | [] => .ok []
  | byte :: rest =>
      if (digit? byte).isSome then skipAfterInteger (skipDigits rest)
      else failBefore .invalidNumber rest

def skipString : (fuel : Nat) → List UInt8 → Except Failure (List UInt8)
  | fuel + 1, byte :: rest =>
      if byte = 0x22 then .ok rest
      else if byte = 0x5C then
        match rest with
        | [] => failBefore .unfinishedString []
        | 0x75 :: rest =>
            match readHexDigits rest with
            | .error failure => .error failure
            | .ok (_, rest) => skipString fuel rest
        | letter :: rest =>
            if (simpleEscape? letter).isSome then skipString fuel rest
            else failBefore .invalidEscape rest
      else if byte < 0x20 then failBefore .controlCharacter (byte :: rest)
      else skipString fuel rest
  | _, _ => failBefore .unfinishedString []

inductive Frame where
  | list
  | object
deriving DecidableEq, Repr

def skipKey (bytes : List UInt8) : Except Failure (List UInt8) :=
  match skipBlanks bytes with
  | [] => failAt .unfinishedObject []
  | byte :: rest =>
      if byte = 0x22 then
        match skipString rest.length rest with
        | .error failure => .error failure
        | .ok rest =>
            match skipBlanks rest with
            | [] => failAt .unfinishedObject []
            | byte :: after =>
                if byte = 0x3A then .ok after else failAt .expectedColon (byte :: after)
      else failAt .keyNotString (byte :: rest)

def skipScalar (byte : UInt8) (rest : List UInt8) : Except Failure (List UInt8) :=
  if byte = 0x6E then readWord nullTail rest
  else if byte = 0x74 then readWord trueTail rest
  else if byte = 0x66 then readWord falseTail rest
  else if byte = 0x2D then skipUnsigned rest
  else if (digit? byte).isSome then skipUnsigned (byte :: rest)
  else if byte = 0x22 then skipString rest.length rest
  else failAt .expectedValue (byte :: rest)

inductive Stage where
  | value
  /-- The first item of the innermost container, or its end. -/
  | first
  /-- A comma or the end of the innermost container. -/
  | next
deriving DecidableEq, Repr

/-- Pass over the rest of a value with some containers open, the innermost first. -/
def skipOpen : (fuel : Nat) → Stage → List Frame → List UInt8 → Except Failure (List UInt8)
  | 0, _, _, bytes => failAt .unfinishedValue bytes
  | fuel + 1, .value, frames, bytes =>
      match skipBlanks bytes with
      | [] => failAt .unfinishedValue []
      | byte :: rest =>
          if byte = 0x5B then skipOpen fuel .first (.list :: frames) rest
          else if byte = 0x7B then skipOpen fuel .first (.object :: frames) rest
          else
            match skipScalar byte rest with
            | .error failure => .error failure
            | .ok rest => skipOpen fuel .next frames rest
  | _ + 1, _, [], bytes => .ok bytes
  | fuel + 1, stage, .list :: frames, bytes =>
      match skipBlanks bytes with
      | [] => failAt .unfinishedList []
      | byte :: rest =>
          if byte = 0x5D then skipOpen fuel .next frames rest
          else if stage = .first then skipOpen fuel .value (.list :: frames) (byte :: rest)
          else if byte = 0x2C then skipOpen fuel .value (.list :: frames) rest
          else failAt .expectedCommaOrBracket (byte :: rest)
  | fuel + 1, stage, .object :: frames, bytes =>
      match skipBlanks bytes with
      | [] => failAt .unfinishedObject []
      | byte :: rest =>
          if byte = 0x7D then skipOpen fuel .next frames rest
          else if stage ≠ .first ∧ byte ≠ 0x2C then failAt .expectedCommaOrBrace (byte :: rest)
          else
            match skipKey (if stage = .first then byte :: rest else rest) with
            | .error failure => .error failure
            | .ok rest => skipOpen fuel .value (.object :: frames) rest

/-- Pass over one value. Each byte is met at most three times. -/
def skipValue (bytes : List UInt8) : Except Failure (List UInt8) :=
  skipOpen (3 * bytes.length + 2) .value [] bytes

end AuthServer.Json
