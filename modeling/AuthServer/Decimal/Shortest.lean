/-!
The shortest decimal of a double: of all decimals that round to the value, one with the fewest
digits, and of those the nearest. Everything is decided in exact natural arithmetic.
-/

namespace AuthServer.Decimal

/-- A finite double without its sign: `significand * 2 ^ exponent`. -/
structure Binary where
  significand : Nat
  exponent : Int
  /-- Whether the next smaller double is only half a unit away. -/
  narrowBelow : Bool
deriving DecidableEq, Repr

/-- The leading bit of a significand, which is not stored. -/
def hiddenBit : Nat := 0x10000000000000

def Binary.ofBits (bits : UInt64) : Binary :=
  let biased : Nat := bits.toNat / hiddenBit % 0x800
  let fraction : Nat := bits.toNat % hiddenBit
  if biased = 0 then ⟨fraction, -1074, false⟩
  else ⟨hiddenBit + fraction, (biased : Int) - 1075, fraction = 0 ∧ 1 < biased⟩

/-- A decimal: `digits * 10 ^ exponent`. -/
structure Numeral where
  digits : Nat
  exponent : Int
deriving DecidableEq, Repr

/-- Compare `left * 10 ^ tens` with `right * 2 ^ twos`. -/
def compareScaled (left : Nat) (tens : Int) (right : Nat) (twos : Int) : Ordering :=
  compare (left * Nat.pow 10 tens.toNat * Nat.pow 2 (-twos).toNat)
    (right * Nat.pow 2 twos.toNat * Nat.pow 10 (-tens).toNat)

/-- Whether the decimal rounds to the double. The halfway points on both sides belong to the double
exactly when its significand is even. -/
def Binary.readsBack (value : Binary) (decimal : Numeral) : Bool :=
  let low := 4 * value.significand - (if value.narrowBelow then 1 else 2)
  let high := 4 * value.significand + 2
  let even := value.significand % 2 == 0
  let fromLow := compareScaled decimal.digits decimal.exponent low (value.exponent - 2)
  let fromHigh := compareScaled decimal.digits decimal.exponent high (value.exponent - 2)
  (fromLow == .gt || (even && fromLow == .eq)) && (fromHigh == .lt || (even && fromHigh == .eq))

def Binary.floorOn (value : Binary) (grid : Int) : Nat :=
  (value.significand * Nat.pow 2 value.exponent.toNat * Nat.pow 10 (-grid).toNat) /
    (Nat.pow 10 grid.toNat * Nat.pow 2 (-value.exponent).toNat)

/-- Whether the lower of two neighbours on a grid is the one to take when both read back: it is
nearer, or it is as near and even. -/
def Binary.prefersLower (value : Binary) (lower : Nat) (grid : Int) : Bool :=
  match compareScaled (2 * lower + 1) grid (2 * value.significand) value.exponent with
  | .gt => true
  | .eq => lower % 2 == 0
  | .lt => false

def Binary.onGrid (value : Binary) (grid : Int) : Option Numeral :=
  let lower : Nat := value.floorOn grid
  let below : Numeral := ⟨lower, grid⟩
  let above : Numeral := ⟨lower + 1, grid⟩
  match value.readsBack below, value.readsBack above with
  | true, true => some (if value.prefersLower lower grid then below else above)
  | true, false => some below
  | false, true => some above
  | false, false => none

def Binary.searchFrom (value : Binary) (grid : Int) : Nat → Option Numeral
  | 0 => none
  | fuel + 1 =>
      match value.onGrid grid with
      | some decimal => some decimal
      | none => value.searchFrom (grid - 1) fuel

/-- The shortest decimal of a positive value. The search starts above the leading digit, and a
double never needs more than seventeen digits. -/
def Binary.shortest (value : Binary) : Numeral :=
  let bits := value.exponent + Nat.log2 value.significand + 1
  (value.searchFrom (bits * 30103 / 100000 + 2) 24).getD ⟨value.significand, 0⟩

example : (Binary.ofBits 0x3FF8000000000000).shortest = ⟨15, -1⟩ := by decide +kernel
example : (Binary.ofBits 1).shortest = ⟨5, -324⟩ := by decide +kernel

def zeros (count : Nat) : String :=
  String.ofList (List.replicate count '0')

/-- Lay digits out. A point that falls close to the digits is written in place, with at least one
digit on each side; otherwise the leading digit stands before the point and an exponent with its
sign follows. -/
def Numeral.text (decimal : Numeral) : String :=
  let digits := toString decimal.digits
  let point : Int := digits.length + decimal.exponent
  if 0 ≤ decimal.exponent ∧ point ≤ 16 then digits ++ zeros decimal.exponent.toNat ++ ".0"
  else if 0 < point ∧ point ≤ 16 then
    String.ofList (digits.toList.take point.toNat) ++ "." ++
      String.ofList (digits.toList.drop point.toNat)
  else if -5 < point ∧ point ≤ 0 then "0." ++ zeros (-point).toNat ++ digits
  else
    let lead := String.ofList (digits.toList.take 1)
    let others := String.ofList (digits.toList.drop 1)
    let exponent := point - 1
    lead ++ (if others.isEmpty then "" else "." ++ others) ++ "e" ++
      (if 0 ≤ exponent then "+" else "") ++ toString exponent

def doubleText (value : Float) : String :=
  let bits := value.toBits
  let sign := if bits >>> 63 = 1 then "-" else ""
  let binary := Binary.ofBits bits
  sign ++ (if binary.significand = 0 then "0.0" else binary.shortest.text)

end AuthServer.Decimal
