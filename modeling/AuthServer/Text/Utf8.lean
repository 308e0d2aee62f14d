/-!
Text as bytes: the UTF-8 form of a text, reading it back, and what to make of bytes that are not
the form of any text.
-/

namespace AuthServer.Utf8

def encode (text : String) : List UInt8 :=
  text.toUTF8.toList

def decode (bytes : List UInt8) : Option String :=
  String.fromUTF8? ⟨bytes.toArray⟩

/-- The ranges that the bytes after a lead byte must lie in, for a well-formed character. -/
def followers (lead : UInt8) : Option (List (UInt8 × UInt8)) :=
  let any : UInt8 × UInt8 := (0x80, 0xBF)
  if lead < 0x80 then some []
  else if lead < 0xC2 then none
  else if lead < 0xE0 then some [any]
  else if lead = 0xE0 then some [(0xA0, 0xBF), any]
  else if lead = 0xED then some [(0x80, 0x9F), any]
  else if lead < 0xF0 then some [any, any]
  else if lead = 0xF0 then some [(0x90, 0xBF), any, any]
  else if lead < 0xF4 then some [any, any, any]
  else if lead = 0xF4 then some [(0x80, 0x8F), any, any]
  else none

def following : List (UInt8 × UInt8) → List UInt8 → Nat
  | (low, high) :: ranges, byte :: bytes =>
      if low ≤ byte ∧ byte ≤ high then following ranges bytes + 1 else 0
  | _, _ => 0

/-- The start of some bytes: a whole character, or the longest start of one that breaks off. -/
inductive Start where
  | whole (length : Nat)
  | broken (length : Nat)

def start (lead : UInt8) (rest : List UInt8) : Start :=
  match followers lead with
  | none => .broken 1
  | some ranges =>
      let length := following ranges rest
      if length = ranges.length then .whole (length + 1) else .broken (length + 1)

def wellFormedLength (bytes : List UInt8) : Nat :=
  go bytes.length 0 bytes
where
  /-- Count whole characters, of which there are no more than `fuel`. -/
  go : Nat → Nat → List UInt8 → Nat
    | fuel + 1, count, lead :: rest =>
        match start lead rest with
        | .whole length => go fuel (count + length) ((lead :: rest).drop length)
        | .broken _ => count
    | _, count, _ => count

/-- Read bytes as text with a replacement character for each start that breaks off. -/
def decodeLossy (bytes : List UInt8) : String :=
  String.ofList (go bytes.length bytes)
where
  /-- Read the characters, of which there are no more than `fuel`. -/
  go : Nat → List UInt8 → List Char
    | fuel + 1, lead :: rest =>
        match start lead rest with
        | .whole length =>
            ((decode ((lead :: rest).take length)).map String.toList).getD ['\ufffd'] ++
              go fuel ((lead :: rest).drop length)
        | .broken length => '\ufffd' :: go fuel ((lead :: rest).drop length)
    | _, _ => []

end AuthServer.Utf8
