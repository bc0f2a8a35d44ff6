import TreeAdapter.Proofs.Time.Rfc3339
import TreeAdapter.Proofs.Value.ReadBack

/-!
# The readings of a date

A date is cast to a calendar value, to an instant, to a number of milliseconds, which `from_millis`
undoes, and to the text that `to_text` prints. What can be written has a year of four digits, so its
milliseconds fit a number (`toInt_millisOf`) and are those of an instant (`exists_ofMillis?`); and
its text has no white space that a reader would trim away (`trim_text_of_read`).

* `cast_date_agrees` — the readings agree to the millisecond
-/

namespace TreeAdapter
set_option autoImplicit false

/-! ## Milliseconds -/

namespace Instant

theorem millis_of_ofMillis? {n : Int} {t : Instant} (h : ofMillis? n = some t) : t.millis = n := by
  unfold ofMillis? at h
  dsimp only at h
  split at h
  · cases h
    show n / 1000 * 1000 + ((n % 1000).toNat * 1000000 / 1000000 : Nat) = n
    omega
  · cases h

/-- Milliseconds are counted downward, also before 1970. -/
theorem millis_eq (t : Instant) : t.millis = (t.seconds * 1000000000 + t.nanos) / 1000000 := by
  unfold millis
  omega

/-- All instants of which RFC 3339 can speak are within the supported years. -/
theorem exists_ofMillis? {n : Int} (first : -62200000000000 ≤ n) (last : n ≤ 253500000000000) :
    ∃ t, ofMillis? n = some t := by
  have low : firstDay = -96465292 := by decide
  have high : lastDay = 95026236 := by decide
  refine ⟨_, if_pos ?_⟩
  omega

end Instant

theorem Calendar.millis_toMillis (c : Calendar) : c.toMillis.instant.millis = c.instant.millis := by
  show c.instant.seconds * 1000 + (c.instant.nanos / 1000000 * 1000000 / 1000000 : Nat) =
    c.instant.seconds * 1000 + (c.instant.nanos / 1000000 : Nat)
  omega

namespace Stamp
variable {s : Stamp}

/-- A year of four digits, and an offset of less than a day. -/
theorem IsValid.millis_bounds (valid : s.IsValid) : -62200000000000 ≤ s.calendar.instant.millis ∧
    s.calendar.instant.millis ≤ 253500000000000 := by
  obtain ⟨first, last⟩ := valid.date.toDays_bounds
  obtain ⟨positive, small⟩ := valid.year
  have low := (CivilDate.daysBeforeYear_near s.date.year).1
  have high := (CivilDate.daysBeforeYear_near (s.date.year + 1)).2
  have inDay := valid.hour
  have inHour := valid.minute
  have inSecond := valid.nanos
  have offset := valid.offset
  have clock : s.clock = s.hour * 3600 + s.minute * 60 + min s.second 59 := rfl
  have seconds : s.calendar.instant.seconds = s.date.toDays * 86400 + s.clock - s.offset * 60 := rfl
  have nanos : s.calendar.instant.nanos < 2000000000 := by
    unfold calendar
    dsimp only
    split <;> omega
  unfold Instant.millis
  omega

open Number in
/-- No white space stands in what is written. -/
theorem isBlank_of_mem_written : ∀ c ∈ s.written, Text.isBlank c = false := by
  have row {width n : Nat} : ∀ c ∈ (padded width n).toList, Text.isBlank c = false := by
    intro c mem
    apply isBlank_of_isNumberChar
    rw [isNumberChar, isDigit_of_mem_padded c mem, Bool.true_or]
  have sign : Text.isBlank (if s.offset < 0 then '-' else '+') = false := by
    split <;> decide
  have mark : Text.isBlank '-' = false ∧ Text.isBlank 'T' = false ∧ Text.isBlank ':' = false ∧
      Text.isBlank '.' = false := by decide
  simp only [written, writtenOffset, List.forall_mem_append, List.forall_mem_cons]
  exact ⟨row, mark.1, row, mark.1, row, mark.2.1, row, mark.2.2.1, row, mark.2.2.1, row,
    mark.2.2.2, row, sign, row, mark.2.2.1, row⟩

end Stamp

/-! ## Readings -/

namespace StoredValue
variable {written : String} {d : Calendar}

theorem toInt_millisOf (h : Rfc3339.read written = some d) :
    (millisOf d).toInt = d.instant.millis := by
  obtain ⟨s, valid, rfl⟩ := Rfc3339.exists_stamp_of_read h
  obtain ⟨first, last⟩ := valid.millis_bounds
  apply Int64.toInt_ofInt_of_le
  · omega
  · omega

theorem exists_calendarOfMillis (h : Rfc3339.read written = some d) :
    ∃ c, calendarOfMillis (millisOf d) = some c := by
  have millis := toInt_millisOf h
  obtain ⟨s, valid, rfl⟩ := Rfc3339.exists_stamp_of_read h
  obtain ⟨first, last⟩ := valid.millis_bounds
  obtain ⟨t, exists_⟩ := Instant.exists_ofMillis? first last
  refine ⟨.ofInstant t, ?_⟩
  rw [calendarOfMillis, millis, exists_, Option.map_some]

/-- A number that is read as milliseconds is the milliseconds of what is read. -/
theorem millisOf_of_calendarOfMillis {n : Int64} {c : Calendar}
    (h : calendarOfMillis n = some c) : millisOf c = n := by
  obtain ⟨t, read, rfl⟩ := Option.map_eq_some_iff.1 h
  show Int64.ofInt t.millis = n
  rw [Instant.millis_of_ofMillis? read, Int64.ofInt_toInt]

theorem millisOf_toMillis (c : Calendar) : millisOf c.toMillis = millisOf c := by
  rw [millisOf, Calendar.millis_toMillis, millisOf]

theorem fetchDate_string (s : String) : (string s).fetchDate = Rfc3339.read (Text.trim s) := by
  have held : (string s).heldText = some s := rfl
  simp [fetchDate, held]

theorem trim_text_of_read (h : Rfc3339.read written = some d) :
    Text.trim (Rfc3339.text .millis d) = Rfc3339.text .millis d := by
  obtain ⟨s, valid, rfl⟩ := Rfc3339.exists_stamp_of_read h
  apply Text.trim_of_isTrimmed
  rw [Rfc3339.toList_text_calendar valid]
  exact Text.isTrimmed_of_forall Stamp.isBlank_of_mem_written

end StoredValue

theorem cast_date_long (c : Calendar) :
    cast (some (.date c)) .long = .ok (.long (StoredValue.millisOf c)) :=
  rfl

theorem cast_long_calendar {n : Int64} {c : Calendar}
    (h : StoredValue.calendarOfMillis n = some c) :
    cast (some (.long n)) .calendar = .ok (.calendar c) := by
  refine cast_of_fetch? ?_ rfl
  show (StoredValue.calendarOfMillis n).map Value.calendar = some (.calendar c)
  rw [h, Option.map_some]

/-- The text of a date that was written is a date again, of whole milliseconds. -/
theorem cast_text_of_read {written : String} {d : Calendar} (h : Rfc3339.read written = some d) :
    cast (some (.string (Rfc3339.text .millis d))) .calendar = .ok (.calendar d.toMillis) := by
  refine cast_of_fetch? ?_ rfl
  rw [DeclaredType.storage, StoredValue.fetch?, StoredValue.fetchDate_string,
    StoredValue.trim_text_of_read h, Rfc3339.read_text_of_read h, Option.map_some]

/-- All readings of a date that was written agree to the millisecond: its text is read as the date
without what lies below a millisecond, both have the same milliseconds, counted downward, the
instant is that of the calendar value, and the milliseconds are read as a date with the same
milliseconds again. A number of milliseconds that is read as a date at all is what the date is read
as. -/
theorem cast_date_agrees :
    (∀ written d, Rfc3339.read written = some d → ∃ s m c,
      cast (some (.date d)) .string = .ok (.string s) ∧
      cast (some (.string s)) .calendar = .ok (.calendar d.toMillis) ∧
      cast (some (.date d)) .long = .ok (.long m) ∧
      m.toInt = (d.instant.seconds * 1000000000 + d.instant.nanos) / 1000000 ∧
      cast (some (.date d.toMillis)) .long = .ok (.long m) ∧
      cast (some (.date d)) .calendar = .ok (.calendar d) ∧
      cast (some (.date d)) .date = .ok (.date d.instant) ∧
      cast (some (.long m)) .calendar = .ok (.calendar c) ∧
      cast (some (.date c)) .long = .ok (.long m)) ∧
    ∀ m, cast (some (.long m)) .calendar = .error ⟨"Long", "Date"⟩ ∨
      ∃ c, cast (some (.long m)) .calendar = .ok (.calendar c) ∧
        cast (some (.date c)) .long = .ok (.long m) := by
  constructor
  · intro written d h
    obtain ⟨c, back⟩ := StoredValue.exists_calendarOfMillis h
    refine ⟨Rfc3339.text .millis d, StoredValue.millisOf d, c, cast_string_of_scalarText rfl,
      cast_text_of_read h, cast_date_long d, ?_, ?_, rfl, rfl, cast_long_calendar back, ?_⟩
    · rw [StoredValue.toInt_millisOf h, Instant.millis_eq]
    · rw [cast_date_long, StoredValue.millisOf_toMillis]
    · rw [cast_date_long, StoredValue.millisOf_of_calendarOfMillis back]
  · intro m
    cases read : StoredValue.calendarOfMillis m with
    | none =>
      refine Or.inl ?_
      have unread : (StoredValue.long m).fetch? .date = none :=
        congrArg (Option.map Value.calendar) read
      show Cast.scalar (.long m) .calendar = _
      rw [Cast.scalar, DeclaredType.storage, unread]
      rfl
    | some c =>
      refine Or.inr ⟨c, cast_long_calendar read, ?_⟩
      rw [cast_date_long, StoredValue.millisOf_of_calendarOfMillis read]

/-- A leap second before 1970, with more digits than milliseconds have, and behind UTC. -/
theorem cast_date_agrees_leapSecond :
    Rfc3339.read "1966-12-31T23:59:60.1239999-05:30" =
      some ⟨⟨-94674601, 1123999900⟩, -19800⟩ ∧ ∃ s m c,
    cast (some (.date ⟨⟨-94674601, 1123999900⟩, -19800⟩)) .string = .ok (.string s) ∧
    cast (some (.string s)) .calendar = .ok (.calendar ⟨⟨-94674601, 1123000000⟩, -19800⟩) ∧
    cast (some (.date ⟨⟨-94674601, 1123999900⟩, -19800⟩)) .long = .ok (.long m) ∧
    m.toInt = -94674599877 ∧
    cast (some (.date ⟨⟨-94674601, 1123000000⟩, -19800⟩)) .long = .ok (.long m) ∧
    cast (some (.date ⟨⟨-94674601, 1123999900⟩, -19800⟩)) .calendar =
      .ok (.calendar ⟨⟨-94674601, 1123999900⟩, -19800⟩) ∧
    cast (some (.date ⟨⟨-94674601, 1123999900⟩, -19800⟩)) .date =
      .ok (.date ⟨-94674601, 1123999900⟩) ∧
    cast (some (.long m)) .calendar = .ok (.calendar c) ∧
    cast (some (.date c)) .long = .ok (.long m) := by
  have read : Rfc3339.read "1966-12-31T23:59:60.1239999-05:30" =
      some ⟨⟨-94674601, 1123999900⟩, -19800⟩ := by decide
  exact ⟨read, cast_date_agrees.1 _ _ read⟩

end TreeAdapter
