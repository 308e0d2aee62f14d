import AuthServer.Text.Numeral

/-!
Random identifiers: sixteen bytes in hexadecimal, in groups between hyphens, with the version and
the variant written over six of the bits.
-/

namespace AuthServer.Uuid

def hexPair (byte : UInt8) : List Char :=
  [Text.hexDigit (byte.toNat / 16), Text.hexDigit (byte.toNat % 16)]

def hex (bytes : List UInt8) : String :=
  String.ofList (bytes.flatMap hexPair)

/-- The identifier that sixteen random bytes make. Bytes that are missing are zero. -/
def ofBytes (bytes : List UInt8) : String :=
  let byte (index : Nat) : UInt8 := bytes.getD index 0
  let version := byte 6 &&& 0x0F ||| 0x40
  let variant := byte 8 &&& 0x3F ||| 0x80
  "-".intercalate [
    hex [byte 0, byte 1, byte 2, byte 3], hex [byte 4, byte 5], hex [version, byte 7],
    hex [variant, byte 9], hex [byte 10, byte 11, byte 12, byte 13, byte 14, byte 15]]

example : ofBytes [] = "00000000-0000-4000-8000-000000000000" := by decide +kernel

end AuthServer.Uuid
