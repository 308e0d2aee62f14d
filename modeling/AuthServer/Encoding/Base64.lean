/-!
Base 64: bytes as characters of an alphabet, three bytes to four characters. Decoding is strict: it
accepts exactly what encoding produces, so the bits that the last character has to spare are zero.
-/

namespace AuthServer.Base64

/-- The two alphabets differ in their last two characters. -/
inductive Alphabet where
  | standard
  | urlSafe
deriving DecidableEq, Repr

def Alphabet.extra : Alphabet → Char × Char
  | .standard => ('+', '/')
  | .urlSafe => ('-', '_')

def Alphabet.char (alphabet : Alphabet) (value : Nat) : Char :=
  if value < 26 then Char.ofNat (value + 'A'.toNat)
  else if value < 52 then Char.ofNat (value - 26 + 'a'.toNat)
  else if value < 62 then Char.ofNat (value - 52 + '0'.toNat)
  else if value = 62 then alphabet.extra.1
  else alphabet.extra.2

def Alphabet.value? (alphabet : Alphabet) (char : Char) : Option Nat :=
  if 'A' ≤ char ∧ char ≤ 'Z' then some (char.toNat - 'A'.toNat)
  else if 'a' ≤ char ∧ char ≤ 'z' then some (char.toNat - 'a'.toNat + 26)
  else if '0' ≤ char ∧ char ≤ '9' then some (char.toNat - '0'.toNat + 52)
  else if char = alphabet.extra.1 then some 62
  else if char = alphabet.extra.2 then some 63
  else none

def encode (alphabet : Alphabet) : List UInt8 → List Char
  | first :: second :: third :: rest =>
      alphabet.char (first.toNat / 4) ::
      alphabet.char (first.toNat % 4 * 16 + second.toNat / 16) ::
      alphabet.char (second.toNat % 16 * 4 + third.toNat / 64) ::
      alphabet.char (third.toNat % 64) :: encode alphabet rest
  | [first, second] =>
      [alphabet.char (first.toNat / 4),
        alphabet.char (first.toNat % 4 * 16 + second.toNat / 16),
        alphabet.char (second.toNat % 16 * 4)]
  | [first] => [alphabet.char (first.toNat / 4), alphabet.char (first.toNat % 4 * 16)]
  | [] => []

def ofValues : List Nat → Option (List UInt8)
  | first :: second :: third :: fourth :: rest =>
      (ofValues rest).map fun bytes =>
        UInt8.ofNat (first * 4 + second / 16) :: UInt8.ofNat (second % 16 * 16 + third / 4) ::
          UInt8.ofNat (third % 4 * 64 + fourth) :: bytes
  | [first, second, third] =>
      if third % 4 = 0 then
        some [UInt8.ofNat (first * 4 + second / 16), UInt8.ofNat (second % 16 * 16 + third / 4)]
      else none
  | [first, second] =>
      if second % 16 = 0 then some [UInt8.ofNat (first * 4 + second / 16)] else none
  | [_] => none
  | [] => some []

def decode (alphabet : Alphabet) (chars : List Char) : Option (List UInt8) :=
  (chars.mapM alphabet.value?).bind ofValues

def dropPadding (chars : List Char) : List Char :=
  match chars.reverse with
  | '=' :: '=' :: rest => rest.reverse
  | '=' :: rest => rest.reverse
  | _ => chars

def decodePadded (alphabet : Alphabet) (chars : List Char) : Option (List UInt8) :=
  if chars.length % 4 = 0 then decode alphabet (dropPadding chars) else none

example : encode .urlSafe [0xFB, 0xEF] = ['-', '-', '8'] := by decide
example : decode .urlSafe ['-', '-', '8'] = some [0xFB, 0xEF] := by decide
example : decode .urlSafe ['-', '-', '9'] = none := by decide

end AuthServer.Base64
