import AuthServer.Text.Blank
import AuthServer.Text.Numeral
import AuthServer.Time.Calendar
import AuthServer.Time.Instant

/-!
Instants as text: date, time of day and offset, in the profile that is exchanged over the net.
Writing uses universal time and the fewest of 0, 3, 6 or 9 fraction digits that lose nothing.
Reading takes any offset and is lenient about blanks.
-/

namespace AuthServer

/-- An instant as it is written down. It may lie in a leap second, which is then the second after
the one that the instant lies in. -/
structure Timestamp where
  instant : Instant
  isLeap : Bool
  leap_ends_minute : isLeap = true → instant.seconds % 60 = 59
deriving DecidableEq

namespace Timestamp

def ofInstant (instant : Instant) : Timestamp :=
  ⟨instant, false, by simp⟩

/-! ## Writing -/

def padded (width value : Nat) : String :=
  let digits := toString value
  String.ofList (List.replicate (width - digits.length) '0') ++ digits

/-- A year: four digits, with a sign and as many digits as needed outside 0 to 9999. -/
def yearText (year : Int) : String :=
  if 0 ≤ year ∧ year ≤ 9999 then padded 4 year.toNat
  else (if year < 0 then "-" else "+") ++ padded 4 year.natAbs

def fractionText (nanos : Nat) : String :=
  if nanos = 0 then ""
  else if nanos % 1000000 = 0 then "." ++ padded 3 (nanos / 1000000)
  else if nanos % 1000 = 0 then "." ++ padded 6 (nanos / 1000)
  else "." ++ padded 9 nanos

def text (timestamp : Timestamp) : String :=
  let seconds := timestamp.instant.seconds
  let date := Date.ofDays (seconds / 86400)
  let time := (seconds % 86400).toNat
  let second := time % 60 + (if timestamp.isLeap then 1 else 0)
  yearText date.year ++ "-" ++ padded 2 date.month ++ "-" ++ padded 2 date.day ++ "T" ++
    padded 2 (time / 3600) ++ ":" ++ padded 2 (time / 60 % 60) ++ ":" ++ padded 2 second ++
    fractionText timestamp.instant.fraction ++ "Z"

/-! ## Reading -/

inductive Problem where
  | outOfRange
  | impossible
  | invalid
  | tooShort
  | tooLong
deriving DecidableEq, Repr

def Problem.message : Problem → String
  | .outOfRange => "input is out of range"
  | .impossible => "no possible date and time matching input"
  | .invalid => "input contains invalid characters"
  | .tooShort => "premature end of input"
  | .tooLong => "trailing input"

abbrev Part (α : Type) := List Char → Except Problem (α × List Char)

def readDigits (width : Nat) : Part Nat := fun chars =>
  match chars with
  | [] => .error .tooShort
  | first :: _ =>
      if first.isDigit then
        let digits := (chars.take width).takeWhile Char.isDigit
        .ok ((Text.readDigits 0 digits).getD 0, chars.drop digits.length)
      else .error .invalid

def readField (low high : Nat) : Part Nat := fun chars => do
  let (value, rest) ← readDigits 2 (Text.trimFront chars)
  if low ≤ value ∧ value ≤ high then return (value, rest) else throw .outOfRange

/-- Read a whole number after blanks: four digits at most, or any number of them after a sign. -/
def readSigned : Part Int := fun chars =>
  match Text.trimFront chars with
  | '-' :: rest =>
      (readDigits rest.length rest).map fun (value, rest) => (-(value : Int), rest)
  | '+' :: rest =>
      (readDigits rest.length rest).map fun (value, rest) => ((value : Int), rest)
  | rest => (readDigits 4 rest).map fun (value, rest) => ((value : Int), rest)

def readYear : Part Int := fun chars => do
  let (year, rest) ← readSigned chars
  if -0x80000000 ≤ year ∧ year < 0x80000000 then return (year, rest) else throw .outOfRange

def skipMark (mark : Char) (chars : List Char) : Except Problem (List Char) :=
  match Text.trimFront chars with
  | [] => .error .tooShort
  | char :: rest => if char = mark then .ok rest else .error .invalid

/-- Read a fraction of a second in nanoseconds, if there is one. Digits beyond the ninth do not
count. -/
def readFraction : Part Nat
  | '.' :: chars => do
      let (value, rest) ← readDigits 9 chars
      let width := chars.length - rest.length
      return (value * Nat.pow 10 (9 - width), rest.dropWhile Char.isDigit)
  | chars => .ok (0, chars)

/-- Read two digits of an offset. A single character is too short unless it takes two bytes. -/
def readPair : Part Nat
  | first :: second :: rest =>
      match Text.digitValue? first, Text.digitValue? second with
      | some tens, some ones => .ok (10 * tens + ones, rest)
      | _, _ => .error .invalid
  | [char] => .error (if 1 < char.utf8Size then .invalid else .tooShort)
  | [] => .error .tooShort

def readOffsetDigits : Part Nat := fun chars => do
  let (hours, rest) ← readPair chars
  let (minutes, rest) ← readPair (rest.dropWhile fun char => char == ':' || Text.isBlank char)
  if minutes < 60 then return (hours * 3600 + minutes * 60, rest) else throw .outOfRange

def readOffset : Part Int := fun chars =>
  match chars with
  | [] => .error .tooShort
  | 'Z' :: rest | 'z' :: rest => .ok (0, rest)
  | sign :: rest =>
      if (chars.take 3).map Char.toUpper = ['U', 'T', 'C'] then .ok (0, chars.drop 3)
      else if sign = '+' then (readOffsetDigits rest).map fun (value, rest) => ((value : Int), rest)
      else if sign = '-' ∨ sign = '\u2212' then
        (readOffsetDigits rest).map fun (value, rest) => (-(value : Int), rest)
      else .error .invalid

def skipDivider : List Char → Except Problem (List Char)
  | [] => .error .tooShort
  | char :: rest => if char ∈ ['T', 't', ' '] then .ok rest else .error .invalid

def firstYear : Int := -262143
def lastYear : Int := 262142

def assemble (date : Date) (time : Nat) (isLeap : Bool) (nanos : Nat) (offset : Int) :
    Except Problem Timestamp :=
  if !date.isValid ∨ date.year < firstYear ∨ lastYear < date.year ∨ 86400 ≤ offset.natAbs then
    .error .outOfRange
  else
    match Instant.ofNanos? ((date.toDays * 86400 + time - offset) * nanosPerSecond + nanos) with
    | none => .error .impossible
    | some instant =>
        if leap : isLeap = true → instant.seconds % 60 = 59 then .ok ⟨instant, isLeap, leap⟩
        else .error .outOfRange

def read (text : String) : Except Problem Timestamp := do
  let (year, rest) ← readYear text.toList
  let rest ← skipMark '-' rest
  let (month, rest) ← readField 1 12 rest
  let rest ← skipMark '-' rest
  let (day, rest) ← readField 1 31 rest
  let rest ← skipDivider rest
  let (hour, rest) ← readField 0 23 rest
  let rest ← skipMark ':' rest
  let (minute, rest) ← readField 0 59 rest
  let rest ← skipMark ':' rest
  let (second, rest) ← readField 0 60 rest
  let (nanos, rest) ← readFraction rest
  let (offset, rest) ← readOffset (Text.trimFront rest)
  if Text.trimFront rest ≠ [] then throw .tooLong
  assemble ⟨year, month, day⟩ (hour * 3600 + minute * 60 + min second 59) (second = 60) nanos offset

end Timestamp

end AuthServer
