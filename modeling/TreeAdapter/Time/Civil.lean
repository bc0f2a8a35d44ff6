/-!
# Dates of the Gregorian calendar

Dates as year, month and day, and as the number of days since 1 January 1970. The calendar is
extended to all years, with a year zero.
-/

namespace TreeAdapter
set_option autoImplicit false

structure CivilDate where
  year : Int
  month : Nat
  day : Nat
deriving DecidableEq

namespace CivilDate

def isLeap (year : Int) : Bool :=
  (year % 4 == 0 && year % 100 != 0) || year % 400 == 0

def monthLengths (leap : Bool) : List Nat :=
  [31, if leap then 29 else 28, 31, 30, 31, 30, 31, 31, 30, 31, 30, 31]

/-- Days from 1 January 1970 to 1 January of `year`. -/
def daysBeforeYear (year : Int) : Int :=
  365 * (year - 1970) + (year - 1) / 4 - (year - 1) / 100 + (year - 1) / 400 - 477

/-- The year that holds day `n`: the mean length of a year finds it up to one. -/
def yearOfDays (n : Int) : Int :=
  let guess := 1970 + n * 400 / 146097
  if n < daysBeforeYear guess then guess - 1
  else if daysBeforeYear (guess + 1) ≤ n then guess + 1
  else guess

/-- Month and day of the `n`th day of a year, from zero, walking down the months. -/
def monthAndDay : List Nat → Nat → Nat × Nat
  | [], n => (1, n + 1)
  | length :: rest, n =>
    if n < length then (1, n + 1)
    else
      let (month, day) := monthAndDay rest (n - length)
      (month + 1, day)

def ofDays (n : Int) : CivilDate :=
  let year := yearOfDays n
  let (month, day) := monthAndDay (monthLengths (isLeap year)) (n - daysBeforeYear year).toNat
  ⟨year, month, day⟩

/-- Days of a year before its `n`th month, from zero. -/
def daysBeforeMonth (leap : Bool) (n : Nat) : Nat :=
  ((monthLengths leap).take n).foldl (· + ·) 0

def toDays (d : CivilDate) : Int :=
  daysBeforeYear d.year + daysBeforeMonth (isLeap d.year) (d.month - 1) + d.day - 1

/-- The month is one of twelve and the day one of its days. -/
def IsValid (d : CivilDate) : Prop :=
  1 ≤ d.month ∧ 1 ≤ d.day ∧ ∃ length ∈ (monthLengths (isLeap d.year))[d.month - 1]?, d.day ≤ length

instance (d : CivilDate) : Decidable d.IsValid := by
  unfold IsValid; infer_instance

end CivilDate
end TreeAdapter
