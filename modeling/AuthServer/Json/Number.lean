import AuthServer.Decimal.Shortest
import AuthServer.Json.Failure

/-!
Numbers in JSON. An integer without point and exponent stays an integer while it fits in 64 bits;
every other number becomes a double.
-/

namespace AuthServer.Json

inductive Number where
  | natural (value : Nat)
  | negative (value : Int)
  | floating (value : Float)

namespace Number

def found : Number → Found
  | .natural value => .integer value
  | .negative value => .integer value
  | .floating value => .floating (Decimal.doubleText value)

def text : Number → String
  | .natural value => toString value
  | .negative value => toString value
  | .floating value => Decimal.doubleText value

end Number

def digit? (byte : UInt8) : Option Nat :=
  if 0x30 ≤ byte ∧ byte ≤ 0x39 then some (byte.toNat - 0x30) else none

def skipDigits : List UInt8 → List UInt8
  | byte :: rest => if (digit? byte).isSome then skipDigits rest else byte :: rest
  | [] => []

def wordEnd : Nat := UInt64.size

def exponentLimit : Nat := 0x7FFFFFFF

def ofWord (value : Nat) : Float :=
  value.toUInt64.toFloat

def signed (positive : Bool) (value : Float) : Float :=
  if positive then value else -value

/-- Scale a word down by `10 ^ exponent`, in steps that a double can hold. The second full step
reaches zero, so that four steps are enough for every exponent. -/
def scaleDown (value : Float) (exponent : Nat) : Nat → Float
  | 0 => 0
  | fuel + 1 =>
      if exponent ≤ 308 then value / Float.ofScientific 1 false exponent
      else if value == 0 then value
      else scaleDown (value / Float.ofScientific 1 false 308) (exponent - 308) fuel

/-- The double of a significand and a decimal exponent: the significand is rounded first and then
scaled. A value beyond the largest double is out of range. -/
def assemble (positive : Bool) (significand : Nat) (exponent : Int) (rest : List UInt8) :
    Except Failure (Number × List UInt8) :=
  let value := ofWord significand
  match exponent with
  | .ofNat exponent =>
      if exponent ≤ 308 then
        let scaled := value * Float.ofScientific 1 false exponent
        if scaled.isInf then failBefore .numberOutOfRange rest
        else .ok (.floating (signed positive scaled), rest)
      else if significand = 0 then .ok (.floating (signed positive value), rest)
      else failBefore .numberOutOfRange rest
  | .negSucc less => .ok (.floating (signed positive (scaleDown value (less + 1) 4)), rest)

/-- Read the digits of an exponent onto the value read so far. An exponent that outgrows its limit
makes the number zero, unless it would make it infinite. -/
def readExponentDigits (positive : Bool) (significand : Nat) (start : Int) (grows : Bool)
    (exponent : Nat) : Reader Number
  | byte :: rest =>
      match digit? byte with
      | some digit =>
          let next := 10 * exponent + digit
          if next ≤ exponentLimit then
            readExponentDigits positive significand start grows next rest
          else if significand ≠ 0 ∧ grows then failBefore .numberOutOfRange rest
          else .ok (.floating (signed positive 0), skipDigits rest)
      | none => finish (byte :: rest)
  | [] => finish []
where
  /-- Put the number together; the sum of the exponents stays in its word. -/
  finish (rest : List UInt8) : Except Failure (Number × List UInt8) :=
    let total := if grows then start + exponent else start - exponent
    assemble positive significand (max (-(exponentLimit : Int) - 1) (min exponentLimit total)) rest

def readExponent (positive : Bool) (significand : Nat) (start : Int) : Reader Number := fun bytes =>
  let (grows, digits) :=
    match bytes with
    | 0x2B :: rest => (true, rest)
    | 0x2D :: rest => (false, rest)
    | _ => (true, bytes)
  match digits with
  | [] => failBefore .unfinishedValue []
  | byte :: rest =>
      match digit? byte with
      | some digit => readExponentDigits positive significand start grows digit rest
      | none => failBefore .invalidNumber rest

def readAfterFraction (positive : Bool) (significand : Nat) (exponent : Int) : Reader Number
  | 0x65 :: rest | 0x45 :: rest => readExponent positive significand exponent rest
  | rest => assemble positive significand exponent rest

/-- Read the digits of a fraction onto the significand read so far. Digits beyond what a word holds
do not count. -/
def readFractionDigits (positive : Bool) (significand : Nat) (exponent : Int) : Reader Number
  | byte :: rest =>
      match digit? byte with
      | some digit =>
          let next := 10 * significand + digit
          if next < wordEnd then readFractionDigits positive next (exponent - 1) rest
          else readAfterFraction positive significand exponent (skipDigits rest)
      | none => readAfterFraction positive significand exponent (byte :: rest)
  | [] => readAfterFraction positive significand exponent []

def readFraction (positive : Bool) (significand : Nat) (exponent : Int) : Reader Number
  | [] => failBefore .unfinishedValue []
  | byte :: rest =>
      if (digit? byte).isSome then
        readFractionDigits positive significand exponent (byte :: rest)
      else failAt .invalidNumber (byte :: rest)

/-- Read the digits of an integer that no longer fits in a word: each counts as a power of ten. -/
def readLongInteger (positive : Bool) (significand : Nat) (exponent : Nat) : Reader Number
  | byte :: rest =>
      if (digit? byte).isSome then readLongInteger positive significand (exponent + 1) rest
      else if byte = 0x2E then readFraction positive significand exponent rest
      else if byte = 0x65 ∨ byte = 0x45 then readExponent positive significand exponent rest
      else assemble positive significand exponent (byte :: rest)
  | [] => assemble positive significand exponent []

/-- The number of an integer that fits in a word. A negative one has to fit in a signed word, and
minus zero is a double. -/
def ofInteger (positive : Bool) (value : Nat) : Number :=
  if positive then .natural value
  else if value = 0 ∨ 0x8000000000000000 < value then .floating (-(ofWord value))
  else .negative (-(value : Int))

def readAfterInteger (positive : Bool) (significand : Nat) : Reader Number
  | 0x2E :: rest => readFraction positive significand 0 rest
  | 0x65 :: rest | 0x45 :: rest => readExponent positive significand 0 rest
  | rest => .ok (ofInteger positive significand, rest)

def readIntegerDigits (positive : Bool) (significand : Nat) : Reader Number
  | byte :: rest =>
      match digit? byte with
      | some digit =>
          let next := 10 * significand + digit
          if next < wordEnd then readIntegerDigits positive next rest
          else readLongInteger positive significand 1 rest
      | none => readAfterInteger positive significand (byte :: rest)
  | [] => readAfterInteger positive significand []

def readUnsigned (positive : Bool) : Reader Number
  | [] => failBefore .unfinishedValue []
  | 0x30 :: rest =>
      match rest with
      | byte :: _ =>
          if (digit? byte).isSome then failAt .invalidNumber rest
          else readAfterInteger positive 0 rest
      | [] => readAfterInteger positive 0 []
  | byte :: rest =>
      match digit? byte with
      | some digit => readIntegerDigits positive digit rest
      | none => failBefore .invalidNumber rest

def startsNumber (byte : UInt8) : Bool :=
  byte == 0x2D || (digit? byte).isSome

def readNumber : Reader Number
  | 0x2D :: rest => readUnsigned false rest
  | bytes => readUnsigned true bytes

end AuthServer.Json
