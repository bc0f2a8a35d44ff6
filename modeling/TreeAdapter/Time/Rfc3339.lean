import TreeAdapter.Time.Instant

/-!
# Dates in RFC 3339 form

Reading accepts `t`, `T` or a space between date and time, any number of fraction digits of which
nine count, the leap second `:60` in any minute, `z` or `Z`, and a minus sign as hyphen or as
U+2212 in the offset. Printing writes the fewest fraction digits of none, three, six and nine
that are exact, or exactly three.
-/

namespace TreeAdapter.Rfc3339
set_option autoImplicit false
open Number

/-- `n` decimal digits at the front, and the rest. -/
def takeDigits (n : Nat) (cs : List Char) : Option (Nat × List Char) :=
  let digits := cs.take n
  if digits.length = n ∧ digits.all Char.isDigit then
    some (Nat.ofDigitChars 10 digits 0, cs.drop n)
  else none

/-- The rest behind a character of `p`. -/
def skip (p : Char → Bool) : List Char → Option (List Char)
  | [] => none
  | c :: cs => if p c then some cs else none

/-- Nanoseconds behind an optional point: at least one digit, from the tenth on ignored. -/
def takeFraction : List Char → Option (Nat × List Char)
  | '.' :: cs =>
    let digits := (cs.takeWhile Char.isDigit).take 9
    if digits.isEmpty then none
    else
      some (Nat.ofDigitChars 10 digits 0 * pow10 (9 - digits.length), cs.dropWhile Char.isDigit)
  | cs => some (0, cs)

/-- Seconds ahead of UTC: `Z`, or a sign, hours up to 23 and minutes up to 59. -/
def readOffset : List Char → Option Int
  | [] => none
  | c :: cs =>
    if c = 'Z' ∨ c = 'z' then (if cs.isEmpty then some 0 else none)
    else if c = '+' ∨ c = '-' ∨ c = '\u2212' then do
      let (hours, cs) ← takeDigits 2 cs
      let cs ← skip (· == ':') cs
      let (minutes, cs) ← takeDigits 2 cs
      if cs.isEmpty ∧ hours ≤ 23 ∧ minutes ≤ 59 then
        let seconds : Int := (hours * 3600 + minutes * 60 : Nat)
        some (if c = '+' then seconds else -seconds)
      else none
    else none

/-- A clock reading of a day; the sixtieth second is the fifty-ninth with a billion nanoseconds
more. -/
def instantOfLocal (date : CivilDate) (hour minute second nanos : Nat) (offset : Int) :
    Option Calendar :=
  if date.IsValid ∧ hour ≤ 23 ∧ minute ≤ 59 ∧ second ≤ 60 then
    let clock : Int := (hour * 3600 + minute * 60 + min second 59 : Nat)
    let nanos := if second = 60 then nanos + 1000000000 else nanos
    some ⟨⟨date.toDays * 86400 + clock - offset, nanos⟩, offset⟩
  else none

def readChars (cs : List Char) : Option Calendar := do
  let (year, cs) ← takeDigits 4 cs
  let cs ← skip (· == '-') cs
  let (month, cs) ← takeDigits 2 cs
  let cs ← skip (· == '-') cs
  let (day, cs) ← takeDigits 2 cs
  let cs ← skip (fun c => c == 'T' || c == 't' || c == ' ') cs
  let (hour, cs) ← takeDigits 2 cs
  let cs ← skip (· == ':') cs
  let (minute, cs) ← takeDigits 2 cs
  let cs ← skip (· == ':') cs
  let (second, cs) ← takeDigits 2 cs
  let (nanos, cs) ← takeFraction cs
  let offset ← readOffset cs
  instantOfLocal ⟨(year : Int), month, day⟩ hour minute second nanos offset

def read (s : String) : Option Calendar :=
  readChars s.toList

/-- How many digits the fraction of a second has. -/
inductive Precision where
  /-- The fewest of none, three, six and nine that are exact. -/
  | exact
  /-- Three, the rest cut off. -/
  | millis
deriving DecidableEq

def fractionText (precision : Precision) (nanos : Nat) : String :=
  match precision with
  | .millis => "." ++ padded 3 (nanos / 1000000)
  | .exact =>
    if nanos = 0 then ""
    else if nanos % 1000000 = 0 then "." ++ padded 3 (nanos / 1000000)
    else if nanos % 1000 = 0 then "." ++ padded 6 (nanos / 1000)
    else "." ++ padded 9 nanos

/-- Four digits, and a sign outside the years 0 to 9999. -/
def yearText (year : Int) : String :=
  if 0 ≤ year ∧ year ≤ 9999 then padded 4 year.toNat
  else (if year < 0 then "-" else "+") ++ padded 4 year.natAbs

/-- An offset in hours and minutes, to the nearest minute. -/
def offsetText (offset : Int) : String :=
  let minutes := (offset.natAbs + 30) / 60
  (if offset < 0 then "-" else "+") ++ padded 2 (minutes / 60) ++ ":" ++ padded 2 (minutes % 60)

/-- The date and the time of day of a calendar value by its own clock. -/
def localText (precision : Precision) (c : Calendar) : String :=
  let seconds := c.instant.seconds + c.offset
  let date := CivilDate.ofDays (seconds / 86400)
  let clock := (seconds % 86400).toNat
  let leap := decide (1000000000 ≤ c.instant.nanos)
  let nanos := if leap then c.instant.nanos - 1000000000 else c.instant.nanos
  let second := clock % 60 + if leap then 1 else 0
  yearText date.year ++ "-" ++ padded 2 date.month ++ "-" ++ padded 2 date.day ++ "T" ++
    padded 2 (clock / 3600) ++ ":" ++ padded 2 (clock / 60 % 60) ++ ":" ++ padded 2 second ++
    fractionText precision nanos

/-- A calendar value with its offset. -/
def text (precision : Precision) (c : Calendar) : String :=
  localText precision c ++ offsetText c.offset

/-- An instant in UTC with `Z`. -/
def zuluText (precision : Precision) (t : Instant) : String :=
  localText precision (Calendar.ofInstant t) ++ "Z"

end TreeAdapter.Rfc3339
