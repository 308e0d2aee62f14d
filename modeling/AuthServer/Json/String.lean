import AuthServer.Json.Failure
import AuthServer.Text.Utf8

/-!
Strings in JSON: reading one after its opening quote, and writing one. What is written reads back as
the same text.
-/

namespace AuthServer.Json

/-! ## Reading -/

def fourHexDigits? (first second third fourth : UInt8) : Option Nat := do
  let digit (byte : UInt8) : Option Nat := Text.hexValue? (Char.ofNat byte.toNat)
  return ((← digit first) * 16 + (← digit second)) * 256 + ((← digit third) * 16 + (← digit fourth))

def readHexDigits : Reader Nat
  | first :: second :: third :: fourth :: rest =>
      match fourHexDigits? first second third fourth with
      | some value => .ok (value, rest)
      | none => failBefore .invalidEscape rest
  | _ => failBefore .unfinishedString []

/-- The trailing half of a surrogate pair whose leading half is `lead`. -/
def readTrail (lead : Nat) : Reader Nat
  | 0x5C :: 0x75 :: rest =>
      match readHexDigits rest with
      | .error failure => .error failure
      | .ok (trail, rest) =>
          if 0xDC00 ≤ trail ∧ trail ≤ 0xDFFF then
            .ok (0x10000 + (lead - 0xD800) * 0x400 + (trail - 0xDC00), rest)
          else failBefore .loneSurrogate rest
  | [] | [0x5C] => failBefore .unfinishedString []
  | 0x5C :: _ :: rest => failBefore .unfinishedEscape rest
  | _ :: rest => failBefore .unfinishedEscape rest

/-- Read the code point of an escape after its letter; one beyond the basic plane is written as a
surrogate pair. -/
def readCodePoint : Reader Nat := fun bytes =>
  match readHexDigits bytes with
  | .error failure => .error failure
  | .ok (value, rest) =>
      if 0xDC00 ≤ value ∧ value ≤ 0xDFFF then failBefore .loneSurrogate rest
      else if 0xD800 ≤ value ∧ value ≤ 0xDBFF then readTrail value rest
      else .ok (value, rest)

def simpleEscape? : UInt8 → Option UInt8
  | 0x22 => some 0x22
  | 0x5C => some 0x5C
  | 0x2F => some 0x2F
  | 0x62 => some 0x08
  | 0x66 => some 0x0C
  | 0x6E => some 0x0A
  | 0x72 => some 0x0D
  | 0x74 => some 0x09
  | _ => none

def readEscape : Reader (List UInt8)
  | [] => failBefore .unfinishedString []
  | 0x75 :: rest =>
      match readCodePoint rest with
      | .error failure => .error failure
      | .ok (value, rest) => .ok (String.utf8EncodeChar (Char.ofNat value), rest)
  | letter :: rest =>
      match simpleEscape? letter with
      | some byte => .ok ([byte], rest)
      | none => failBefore .invalidEscape rest

/-- Read up to the closing quote, escapes resolved, onto the bytes read so far in reverse. Every
step reads at least one byte, so that `fuel` need not exceed the number of bytes. -/
def readStringBytes : (fuel : Nat) → (reversed : List UInt8) → Reader (List UInt8)
  | fuel + 1, reversed, byte :: rest =>
      if byte = 0x22 then .ok (reversed.reverse, rest)
      else if byte = 0x5C then
        match readEscape rest with
        | .error failure => .error failure
        | .ok (bytes, rest) => readStringBytes fuel (bytes.reverse ++ reversed) rest
      else if byte < 0x20 then failBefore .controlCharacter rest
      else readStringBytes fuel (byte :: reversed) rest
  | _, _, _ => failBefore .unfinishedString []

/-- Read a string after its opening quote. Bytes that are no text are reported once the closing
quote was found, at the first of them. -/
def readString : Reader String := fun bytes =>
  match readStringBytes bytes.length [] bytes with
  | .error failure => .error failure
  | .ok (content, rest) =>
      match Utf8.decode content with
      | some text => .ok (text, rest)
      | none => failAt .invalidCodePoint (bytes.drop (Utf8.wellFormedLength bytes))

/-! ## Writing -/

def escapeChar (char : Char) : List Char :=
  match char with
  | '"' => ['\\', '"']
  | '\\' => ['\\', '\\']
  | '\x08' => ['\\', 'b']
  | '\x0c' => ['\\', 'f']
  | '\n' => ['\\', 'n']
  | '\r' => ['\\', 'r']
  | '\t' => ['\\', 't']
  | _ =>
      if char.toNat < 0x20 then
        ['\\', 'u', '0', '0', Text.hexDigit (char.toNat / 16), Text.hexDigit (char.toNat % 16)]
      else [char]

def stringText (text : String) : String :=
  String.ofList ('"' :: text.toList.flatMap escapeChar ++ ['"'])

end AuthServer.Json
