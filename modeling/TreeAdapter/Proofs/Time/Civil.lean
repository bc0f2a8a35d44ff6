import Mathlib.Algebra.Ring.Nat
import TreeAdapter.Time.Civil

/-!
# Laws of the calendar

Days are counted over the years and over the months of a year, and both counts are undone: a year
is found again from any of its days (`yearOfDays_eq`), month and day from the day of the year
(`monthAndDay_eq`).

* `ofDays_toDays` — a date is the date of its day
-/

namespace TreeAdapter.CivilDate
set_option autoImplicit false

/-! ## Years -/

def yearLength (year : Int) : Nat :=
  if isLeap year then 366 else 365

theorem isLeap_iff (year : Int) :
    isLeap year = true ↔ (year % 4 = 0 ∧ year % 100 ≠ 0) ∨ year % 400 = 0 := by
  simp [isLeap]

theorem daysBeforeYear_succ (year : Int) :
    daysBeforeYear (year + 1) = daysBeforeYear year + yearLength year := by
  have leap := isLeap_iff year
  unfold daysBeforeYear yearLength
  split
  · next long =>
    have := leap.1 long
    omega
  · next common =>
    have := mt leap.2 common
    omega

theorem lt_daysBeforeYear_succ (year : Int) : daysBeforeYear year < daysBeforeYear (year + 1) := by
  unfold daysBeforeYear
  omega

/-- Years are of their mean length up to less than two days in all. -/
theorem daysBeforeYear_near (year : Int) :
    146097 * (year - 1970) - 506 ≤ 400 * daysBeforeYear year ∧
      400 * daysBeforeYear year ≤ 146097 * (year - 1970) + 589 := by
  unfold daysBeforeYear
  omega

theorem yearOfDays_eq {year n : Int} (first : daysBeforeYear year ≤ n)
    (last : n < daysBeforeYear (year + 1)) : yearOfDays n = year := by
  have low := daysBeforeYear_near year
  have high := daysBeforeYear_near (year + 1)
  have near : 1970 + n * 400 / 146097 = year - 1 ∨ 1970 + n * 400 / 146097 = year ∨
      1970 + n * 400 / 146097 = year + 1 := by omega
  unfold yearOfDays
  rcases near with eq | eq | eq <;> rw [eq]
  · have before := lt_daysBeforeYear_succ (year - 1)
    rw [Int.sub_add_cancel] at before
    rw [if_neg (by omega), Int.sub_add_cancel, if_pos first]
  · rw [if_neg (by omega), if_neg (by omega)]
  · rw [if_pos last]
    omega

/-! ## Months -/

theorem sum_monthLengths (year : Int) : (monthLengths (isLeap year)).sum = yearLength year := by
  unfold yearLength
  cases isLeap year <;> rfl

/-- Month and day of a day are found again by walking down the months. -/
theorem monthAndDay_eq {lengths : List Nat} {month day length : Nat}
    (known : lengths[month]? = some length) (within : day < length) :
    monthAndDay lengths ((lengths.take month).sum + day) = (month + 1, day + 1) := by
  induction lengths generalizing month with
  | nil => simp at known
  | cons first rest ih =>
    cases month with
    | zero =>
      obtain rfl : first = length := by simpa using known
      simp [monthAndDay, within]
    | succ month =>
      have later : rest[month]? = some length := by simpa using known
      have behind : first + (rest.take month).sum + day - first = (rest.take month).sum + day := by
        omega
      rw [List.take_succ_cons, List.sum_cons, monthAndDay, if_neg (by omega), behind, ih later]

theorem daysBeforeMonth_eq (leap : Bool) (n : Nat) :
    daysBeforeMonth leap n = ((monthLengths leap).take n).sum := by
  rw [daysBeforeMonth, List.sum_eq_foldl_nat]

/-- A day of a month is one of the days of the year. -/
theorem sum_take_add_lt {lengths : List Nat} {month day length : Nat}
    (known : lengths[month]? = some length) (within : day < length) :
    (lengths.take month).sum + day < lengths.sum := by
  induction lengths generalizing month with
  | nil => simp at known
  | cons first rest ih =>
    cases month with
    | zero =>
      obtain rfl : first = length := by simpa using known
      rw [List.take_zero, List.sum_nil, List.sum_cons]
      omega
    | succ month =>
      have later : (rest.take month).sum + day < rest.sum := ih (by simpa using known)
      rw [List.take_succ_cons, List.sum_cons, List.sum_cons]
      omega

/-! ## Dates -/

variable {d : CivilDate}

theorem IsValid.month_day_le (h : d.IsValid) : d.month ≤ 12 ∧ d.day ≤ 31 := by
  obtain ⟨_, _, length, known, within⟩ := h
  have months : ∀ leap, (monthLengths leap).length = 12 ∧ ∀ days ∈ monthLengths leap, days ≤ 31 := by
    decide
  obtain ⟨twelve, short⟩ := months (isLeap d.year)
  have inside := (List.getElem?_eq_some_iff.1 known).1
  have few := short length (List.mem_of_getElem? known)
  omega

theorem IsValid.exists_dayOfYear (h : d.IsValid) :
    ∃ n : Nat, d.toDays = daysBeforeYear d.year + n ∧ n < yearLength d.year ∧
      monthAndDay (monthLengths (isLeap d.year)) n = (d.month, d.day) := by
  obtain ⟨month, day, length, known, within⟩ := h
  refine ⟨daysBeforeMonth (isLeap d.year) (d.month - 1) + (d.day - 1), ?_, ?_, ?_⟩
  · unfold toDays
    omega
  · rw [daysBeforeMonth_eq, ← sum_monthLengths]
    exact sum_take_add_lt known (by omega)
  · rw [daysBeforeMonth_eq, monthAndDay_eq known (by omega), Nat.sub_add_cancel month,
      Nat.sub_add_cancel day]

/-- The day of a date is one of the days of its year. -/
theorem IsValid.toDays_bounds (h : d.IsValid) :
    daysBeforeYear d.year ≤ d.toDays ∧ d.toDays < daysBeforeYear (d.year + 1) := by
  obtain ⟨n, day, within, -⟩ := h.exists_dayOfYear
  rw [daysBeforeYear_succ]
  omega

/-- A date is the date of its day. -/
theorem ofDays_toDays (h : d.IsValid) : ofDays d.toDays = d := by
  obtain ⟨n, day, -, found⟩ := h.exists_dayOfYear
  obtain ⟨first, last⟩ := h.toDays_bounds
  have year : yearOfDays d.toDays = d.year := yearOfDays_eq first last
  have dayOfYear : (d.toDays - daysBeforeYear d.year).toNat = n := by omega
  unfold ofDays
  dsimp only
  rw [year, dayOfYear, found]

end TreeAdapter.CivilDate
