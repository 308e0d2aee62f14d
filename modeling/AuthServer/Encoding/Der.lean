/-!
Distinguished encoding: elements of a tag, a length and contents. Only the one shortest form of
lengths and integers is accepted.
-/

namespace AuthServer.Der

def integerTag : UInt8 := 0x02
def bitStringTag : UInt8 := 0x03
def octetStringTag : UInt8 := 0x04
def nullTag : UInt8 := 0x05
def identifierTag : UInt8 := 0x06
def sequenceTag : UInt8 := 0x30

/-- Whether a byte is a tag: one of the universal tags that are in use, or a tag of another class
with a number below 31. -/
def isTag (tag : UInt8) : Bool :=
  if tag < 0x40 then
    [0x01, 0x02, 0x03, 0x04, 0x05, 0x06, 0x09, 0x0A, 0x0C, 0x12, 0x13, 0x14, 0x15, 0x16, 0x17, 0x18,
      0x1A, 0x1D, 0x1E, 0x30, 0x31].contains tag.toNat
  else tag.toNat % 32 != 31

def number (bytes : List UInt8) : Nat :=
  bytes.foldl (fun value byte => value * 256 + byte.toNat) 0

/-- Read a length: one byte below 128, or the count of up to four bytes that are needed for it. -/
def readLength : List UInt8 → Option (Nat × List UInt8)
  | [] => none
  | byte :: rest =>
      if byte < 0x80 then some (byte.toNat, rest)
      else
        let count := byte.toNat - 0x80
        let digits := rest.take count
        let length := number digits
        if 1 ≤ count ∧ count ≤ 4 ∧ digits.length = count ∧ 0x80 ≤ length ∧
            Nat.pow 256 (count - 1) ≤ length then
          some (length, rest.drop count)
        else none

/-- Read any element: its tag, its contents and what follows. -/
def readAny : List UInt8 → Option (UInt8 × List UInt8 × List UInt8)
  | [] => none
  | tag :: rest => do
      guard (isTag tag)
      let (length, rest) ← readLength rest
      guard (length ≤ rest.length)
      return (tag, rest.take length, rest.drop length)

def read (expected : UInt8) (bytes : List UInt8) : Option (List UInt8 × List UInt8) := do
  let (tag, contents, rest) ← readAny bytes
  guard (tag = expected)
  return (contents, rest)

def unsigned (contents : List UInt8) : Option Nat :=
  match contents with
  | [] => none
  | [byte] => if byte < 0x80 then some byte.toNat else none
  | first :: second :: _ =>
      if first < 0x80 ∧ (first ≠ 0 ∨ 0x80 ≤ second) then some (number contents) else none

def readUnsigned (bytes : List UInt8) : Option (Nat × List UInt8) := do
  let (contents, rest) ← read integerTag bytes
  return (← unsigned contents, rest)

def readUnsigneds : Nat → List UInt8 → Option (List Nat × List UInt8)
  | 0, bytes => some ([], bytes)
  | count + 1, bytes => do
      let (value, rest) ← readUnsigned bytes
      let (values, rest) ← readUnsigneds count rest
      return (value :: values, rest)

def readWhole (expected : UInt8) (bytes : List UInt8) : Option (List UInt8) := do
  let (contents, rest) ← read expected bytes
  guard rest.isEmpty
  return contents

def wholeBits : List UInt8 → Option (List UInt8)
  | 0 :: bytes => some bytes
  | _ => none

end AuthServer.Der
