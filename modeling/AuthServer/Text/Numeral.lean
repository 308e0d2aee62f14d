/-!
Unsigned numerals as people write them in settings: digits, leading zeros and one plus sign are
allowed, and nothing else.
-/

namespace AuthServer.Text

def digitValue? (char : Char) : Option Nat :=
  if char.isDigit then some (char.toNat - '0'.toNat) else none

def readDigits (value : Nat) : List Char → Option Nat
  | [] => some value
  | char :: rest =>
      match digitValue? char with
      | some digit => readDigits (10 * value + digit) rest
      | none => none

def dropPlus : List Char → List Char
  | '+' :: rest => rest
  | chars => chars

def readNumeral (text : String) : Option Nat :=
  match dropPlus text.toList with
  | [] => none
  | digits => readDigits 0 digits

def readNumeralBelow (bound : Nat) (text : String) : Option Nat :=
  (readNumeral text).filter (· < bound)

def hexValue? (char : Char) : Option Nat :=
  if char.isDigit then some (char.toNat - '0'.toNat)
  else if 'a' ≤ char ∧ char ≤ 'f' then some (char.toNat - 'a'.toNat + 10)
  else if 'A' ≤ char ∧ char ≤ 'F' then some (char.toNat - 'A'.toNat + 10)
  else none

def readHexDigits (value : Nat) : List Char → Option Nat
  | [] => some value
  | char :: rest =>
      match hexValue? char with
      | some digit => readHexDigits (16 * value + digit) rest
      | none => none

def hexDigit (value : Nat) : Char :=
  if value < 10 then Char.ofNat ('0'.toNat + value) else Char.ofNat ('a'.toNat + (value - 10))

def hexText (value : Nat) : String :=
  String.ofList (Nat.toDigits 16 value)

end AuthServer.Text
