import TreeAdapter.Proofs.Number
import TreeAdapter.Proofs.Time.Civil
import TreeAdapter.Time.Rfc3339

/-!
# Dates are read as they are printed

Dates are printed by `to_text` and read by `fetch` in one form. What the form says of a date is its
stamp: the date and the time that a clock shows, and how far the clock is ahead. Whatever is read is
the value of a stamp (`exists_stamp_of_read`), and a value with a stamp is printed as it
(`toList_text_calendar`) and read back from there (`readChars_written`), but for what lies below a
millisecond.

* `read_text_of_read` — a date that was read, printed and read again
-/

namespace TreeAdapter
set_option autoImplicit false
open Number

/-- What the form says of a date. The sixtieth second is a leap second, in whatever minute. -/
structure Stamp where
  date : CivilDate
  hour : Nat
  minute : Nat
  second : Nat
  nanos : Nat
  /-- The minutes that the clock is ahead of UTC. -/
  offset : Int

namespace Stamp

/-- What the form has room for. -/
structure IsValid (s : Stamp) : Prop where
  year : 0 ≤ s.date.year ∧ s.date.year < 10000
  date : s.date.IsValid
  hour : s.hour < 24
  minute : s.minute < 60
  second : s.second ≤ 60
  nanos : s.nanos < 1000000000
  offset : s.offset.natAbs < 1440

/-- The seconds of a day that have gone by. -/
def clock (s : Stamp) : Nat :=
  s.hour * 3600 + s.minute * 60 + min s.second 59

/-- The value that a stamp stands for. -/
def calendar (s : Stamp) : Calendar :=
  ⟨⟨s.date.toDays * 86400 + s.clock - s.offset * 60,
    if s.second = 60 then s.nanos + 1000000000 else s.nanos⟩, s.offset * 60⟩

/-- Without the part below a millisecond. -/
def toMillis (s : Stamp) : Stamp :=
  { s with nanos := s.nanos / 1000000 * 1000000 }

theorem IsValid.toMillis {s : Stamp} (h : s.IsValid) : s.toMillis.IsValid :=
  { h with nanos := Nat.lt_of_le_of_lt (Nat.div_mul_le_self _ _) h.nanos }

/-- The offset as it is written, in hours and minutes. -/
def writtenOffset (offset : Int) : List Char :=
  (if offset < 0 then '-' else '+') :: ((padded 2 (offset.natAbs / 60)).toList ++
    ':' :: (padded 2 (offset.natAbs % 60)).toList)

/-- An offset does not begin with a digit, so a fraction ends in front of it. -/
theorem writtenOffset_cons (offset : Int) :
    ∃ c rest, c.isDigit = false ∧ writtenOffset offset = c :: rest := by
  refine ⟨_, _, ?_, rfl⟩
  split <;> rfl

/-- A stamp as it is written, to the millisecond. -/
def written (s : Stamp) : List Char :=
  (padded 4 s.date.year.toNat).toList ++ '-' :: ((padded 2 s.date.month).toList ++
    '-' :: ((padded 2 s.date.day).toList ++ 'T' :: ((padded 2 s.hour).toList ++
      ':' :: ((padded 2 s.minute).toList ++ ':' :: ((padded 2 s.second).toList ++
        '.' :: ((padded 3 (s.nanos / 1000000)).toList ++ writtenOffset s.offset))))))

end Stamp

/-- Without the part below a millisecond. -/
def Calendar.toMillis (c : Calendar) : Calendar :=
  ⟨⟨c.instant.seconds, c.instant.nanos / 1000000 * 1000000⟩, c.offset⟩

namespace Rfc3339
variable {s : Stamp}

/-! ## Reading -/

/-- A padded number is taken in whole. -/
theorem takeDigits_padded {width n : Nat} (pos : 0 < width) (fits : n < 10 ^ width)
    (rest : List Char) : takeDigits width ((padded width n).toList ++ rest) = some (n, rest) := by
  have length := length_padded pos fits
  have digits : (padded width n).toList.all Char.isDigit = true :=
    List.all_eq_true.2 isDigit_of_mem_padded
  have front : ((padded width n).toList ++ rest).take width = (padded width n).toList :=
    List.take_left' length
  have back : ((padded width n).toList ++ rest).drop width = rest := List.drop_left' length
  rw [takeDigits, front, back, if_pos ⟨length, digits⟩, ofDigitChars_padded]

theorem lt_of_takeDigits {width n : Nat} {cs rest : List Char}
    (h : takeDigits width cs = some (n, rest)) : n < 10 ^ width := by
  unfold takeDigits at h
  dsimp only at h
  split at h
  · next digits =>
    cases h
    obtain ⟨length, digits⟩ := digits
    have below := ofDigitChars_lt (List.all_eq_true.1 digits)
    rwa [length] at below
  · cases h

/-- Three digits of a fraction are milliseconds. -/
theorem takeFraction_written {millis : Nat} (fits : millis < 1000) (offset : Int) :
    takeFraction ('.' :: ((padded 3 millis).toList ++ Stamp.writtenOffset offset)) =
      some (millis * 1000000, Stamp.writtenOffset offset) := by
  obtain ⟨c, rest, sign, whole⟩ := Stamp.writtenOffset_cons offset
  rw [whole]
  have length : (padded 3 millis).toList.length = 3 := length_padded (by decide) fits
  have digits : ∀ d ∈ (padded 3 millis).toList, d.isDigit = true := isDigit_of_mem_padded
  have front : ((padded 3 millis).toList ++ c :: rest).takeWhile Char.isDigit =
      (padded 3 millis).toList := by
    rw [List.takeWhile_append_of_pos digits, List.takeWhile_cons_of_neg (by simp [sign]),
      List.append_nil]
  have back : ((padded 3 millis).toList ++ c :: rest).dropWhile Char.isDigit = c :: rest := by
    rw [List.dropWhile_append_of_pos digits, List.dropWhile_cons_of_neg (by simp [sign])]
  have short : (padded 3 millis).toList.take 9 = (padded 3 millis).toList :=
    List.take_of_length_le (by omega)
  have written : (padded 3 millis).toList.isEmpty = false := by
    rw [List.isEmpty_eq_false_iff, ← List.length_pos_iff, length]
    decide
  rw [takeFraction, front, back, short, written, length, ofDigitChars_padded]
  rfl

/-- A fraction is less than a second. -/
theorem lt_of_takeFraction {cs rest : List Char} {nanos : Nat}
    (h : takeFraction cs = some (nanos, rest)) : nanos < 1000000000 := by
  unfold takeFraction at h
  split at h
  · next tail =>
    dsimp only at h
    split at h
    · cases h
    · cases h
      let digits := (tail.takeWhile Char.isDigit).take 9
      show Nat.ofDigitChars 10 digits 0 * pow10 (9 - digits.length) < 1000000000
      have few : digits.length ≤ 9 := List.length_take_le _ _
      have below : Nat.ofDigitChars 10 digits 0 < 10 ^ digits.length := by
        refine ofDigitChars_lt fun c mem => ?_
        exact List.all_eq_true.1 List.all_takeWhile c (List.mem_of_mem_take mem)
      calc Nat.ofDigitChars 10 digits 0 * pow10 (9 - digits.length)
          < 10 ^ digits.length * 10 ^ (9 - digits.length) :=
            Nat.mul_lt_mul_of_pos_right below (Nat.pow_pos (by decide))
        _ = 1000000000 := by rw [← Nat.pow_add, Nat.add_sub_cancel' few]
  · cases h
    decide

/-- An offset of whole minutes reads back. -/
theorem readOffset_written {offset : Int} (small : offset.natAbs < 1440) :
    readOffset (Stamp.writtenOffset offset) = some (offset * 60) := by
  have hours (rest : List Char) : takeDigits 2 ((padded 2 (offset.natAbs / 60)).toList ++ rest) =
      some (offset.natAbs / 60, rest) := takeDigits_padded (by decide) (by omega) rest
  have minutes : takeDigits 2 (padded 2 (offset.natAbs % 60)).toList =
      some (offset.natAbs % 60, []) := by
    simpa using takeDigits_padded (by decide) (by omega : offset.natAbs % 60 < 10 ^ 2) []
  have range : offset.natAbs / 60 ≤ 23 ∧ offset.natAbs % 60 ≤ 59 := by omega
  unfold Stamp.writtenOffset
  by_cases negative : offset < 0
  · have value : -(((offset.natAbs / 60 * 3600 + offset.natAbs % 60 * 60 : Nat)) : Int) =
        offset * 60 := by omega
    simp only [if_pos negative]
    simp [readOffset, hours, skip, minutes, range, ← value]
  · have value : ((offset.natAbs / 60 * 3600 + offset.natAbs % 60 * 60 : Nat) : Int) =
        offset * 60 := by omega
    simp only [if_neg negative]
    simp [readOffset, hours, skip, minutes, range, ← value]

/-- An offset that is read is of whole minutes and less than a day. -/
theorem exists_of_readOffset {cs : List Char} {seconds : Int} (h : readOffset cs = some seconds) :
    ∃ offset : Int, offset.natAbs < 1440 ∧ seconds = offset * 60 := by
  unfold readOffset at h
  split at h
  · cases h
  · next c cs =>
    split at h
    · split at h
      · cases h
        exact ⟨0, by decide, rfl⟩
      · cases h
    · split at h
      · simp only [Option.bind_eq_bind, Option.bind_eq_some_iff, Prod.exists] at h
        obtain ⟨hours, _, _, _, _, minutes, last, _, h⟩ := h
        split at h
        · next range =>
          cases h
          obtain ⟨_, hour, minute⟩ := range
          refine ⟨if c = '+' then (hours * 60 + minutes : Nat) else -(hours * 60 + minutes : Nat),
            ?_, ?_⟩
          · split <;> omega
          · split <;> omega
        · cases h
      · cases h

/-- A local time with its offset is the instant of the stamp. -/
theorem instantOfLocal_eq (valid : s.IsValid) :
    instantOfLocal s.date s.hour s.minute s.second s.nanos (s.offset * 60) = some s.calendar := by
  have range : s.date.IsValid ∧ s.hour ≤ 23 ∧ s.minute ≤ 59 ∧ s.second ≤ 60 :=
    ⟨valid.date, Nat.le_of_lt_succ valid.hour, Nat.le_of_lt_succ valid.minute, valid.second⟩
  rw [instantOfLocal, if_pos range]
  rfl

/-- What is written to the millisecond is read back so. -/
theorem readChars_written (valid : s.IsValid) :
    readChars s.written = some s.toMillis.calendar := by
  obtain ⟨month, day⟩ := valid.date.month_day_le
  have instant : instantOfLocal s.date s.hour s.minute s.second (s.nanos / 1000000 * 1000000)
      (s.offset * 60) = some s.toMillis.calendar := instantOfLocal_eq valid.toMillis
  have inYear := valid.year
  have inDay := valid.hour
  have inHour := valid.minute
  have inMinute := valid.second
  have inSecond := valid.nanos
  have pair {n : Nat} (fits : n < 100) (rest : List Char) :
      takeDigits 2 ((padded 2 n).toList ++ rest) = some (n, rest) :=
    takeDigits_padded (by decide) fits rest
  have year (rest : List Char) : takeDigits 4 ((padded 4 s.date.year.toNat).toList ++ rest) =
      some (s.date.year.toNat, rest) := takeDigits_padded (by decide) (by omega) rest
  have month := pair (by omega : s.date.month < 100)
  have day := pair (by omega : s.date.day < 100)
  have hour := pair (by omega : s.hour < 100)
  have minute := pair (by omega : s.minute < 100)
  have second := pair (by omega : s.second < 100)
  have fraction := takeFraction_written (by omega : s.nanos / 1000000 < 1000) s.offset
  have offset := readOffset_written valid.offset
  have notNegative : max s.date.year 0 = s.date.year := by omega
  simpa [readChars, Stamp.written, skip, year, month, day, hour, minute, second, fraction, offset,
    notNegative] using instant

/-! ## Printing -/

theorem yearText_of_lt {year : Int} (range : 0 ≤ year ∧ year < 10000) :
    yearText year = padded 4 year.toNat :=
  if_pos ⟨range.1, by omega⟩

/-- An offset of whole minutes is written without rounding. -/
theorem toList_offsetText (offset : Int) :
    (offsetText (offset * 60)).toList = Stamp.writtenOffset offset := by
  have minutes : ((offset * 60).natAbs + 30) / 60 = offset.natAbs := by omega
  have sign : offset * 60 < 0 ↔ offset < 0 := by omega
  unfold offsetText Stamp.writtenOffset
  simp only [minutes, sign]
  split <;> simp

/-- What the local clock of a value shows is its stamp. -/
theorem localText_calendar (valid : s.IsValid) : localText .millis s.calendar =
    padded 4 s.date.year.toNat ++ "-" ++ padded 2 s.date.month ++ "-" ++ padded 2 s.date.day ++ "T" ++
      padded 2 s.hour ++ ":" ++ padded 2 s.minute ++ ":" ++ padded 2 s.second ++
      ("." ++ padded 3 (s.nanos / 1000000)) := by
  have inDay := valid.hour
  have inHour := valid.minute
  have inMinute := valid.second
  have inSecond := valid.nanos
  have moment : s.calendar.instant.seconds + s.calendar.offset =
      s.date.toDays * 86400 + s.clock := Int.sub_add_cancel _ _
  have clock : s.clock = s.hour * 3600 + s.minute * 60 + min s.second 59 := rfl
  have day : (s.date.toDays * 86400 + s.clock) / 86400 = s.date.toDays := by omega
  have time : ((s.date.toDays * 86400 + s.clock) % 86400).toNat = s.clock := by omega
  have hour : s.clock / 3600 = s.hour := by omega
  have minute : s.clock / 60 % 60 = s.minute := by omega
  -- a billion nanoseconds more are the sixtieth second
  have nanos : s.calendar.instant.nanos = s.nanos + if s.second = 60 then 1000000000 else 0 := by
    unfold Stamp.calendar
    split <;> rfl
  have leap : 1000000000 ≤ s.calendar.instant.nanos ↔ s.second = 60 := by
    rw [nanos]
    split <;> omega
  have second : s.clock % 60 + (if s.second = 60 then 1 else 0) = s.second := by
    split <;> omega
  have fraction : (if s.second = 60 then s.calendar.instant.nanos - 1000000000
      else s.calendar.instant.nanos) = s.nanos := by
    rw [nanos]
    split <;> omega
  unfold localText fractionText
  simp only [moment, day, time, hour, minute, leap, decide_eq_true_eq, second, fraction,
    CivilDate.ofDays_toDays valid.date, yearText_of_lt valid.year]

/-- A stamp is what its value is printed as. -/
theorem toList_text_calendar (valid : s.IsValid) : (text .millis s.calendar).toList = s.written := by
  have offset : s.calendar.offset = s.offset * 60 := rfl
  rw [text, localText_calendar valid, String.toList_append, offset, toList_offsetText,
    Stamp.written]
  simp

/-! ## There and back -/

/-- A date that is read is that of a valid stamp. -/
theorem exists_stamp_of_read {text : String} {c : Calendar} (h : read text = some c) :
    ∃ s : Stamp, s.IsValid ∧ s.calendar = c := by
  simp only [read, readChars, Option.bind_eq_bind, Option.bind_eq_some_iff, Prod.exists] at h
  obtain ⟨year, _, inYear, _, _, month, _, _, _, _, day, _, _, _, _, hour, _, _, _, _, minute, _,
    _, _, _, second, _, _, nanos, _, inSecond, seconds, ahead, h⟩ := h
  obtain ⟨offset, small, rfl⟩ := exists_of_readOffset ahead
  have fourDigits := lt_of_takeDigits inYear
  have below := lt_of_takeFraction inSecond
  unfold instantOfLocal at h
  split at h
  · next range =>
    cases h
    obtain ⟨date, inDay, inHour, inMinute⟩ := range
    refine ⟨⟨⟨year, month, day⟩, hour, minute, second, nanos, offset⟩, ?_, rfl⟩
    exact {
      year := ⟨Int.natCast_nonneg year, Int.ofNat_lt.2 fourDigits⟩
      date := date
      hour := Nat.lt_succ_of_le inDay
      minute := Nat.lt_succ_of_le inHour
      second := inMinute
      nanos := below
      offset := small }
  · cases h

/-- A stamp cut to milliseconds gives the date cut to milliseconds. -/
theorem toMillis_calendar (s : Stamp) : s.calendar.toMillis = s.toMillis.calendar := by
  have leap : (s.nanos + 1000000000) / 1000000 * 1000000 =
      s.nanos / 1000000 * 1000000 + 1000000000 := by omega
  unfold Calendar.toMillis Stamp.calendar Stamp.toMillis Stamp.clock
  dsimp only
  split
  · rw [leap]
  · rfl

/-- A date that was read is printed so that it is read again, to the millisecond. -/
theorem read_text_of_read {written : String} {c : Calendar} (h : read written = some c) :
    read (text .millis c) = some c.toMillis := by
  obtain ⟨s, valid, rfl⟩ := exists_stamp_of_read h
  rw [read, toList_text_calendar valid, readChars_written valid, toMillis_calendar]

end Rfc3339
end TreeAdapter
