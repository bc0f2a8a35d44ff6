import Mathlib.Data.Bool.AllAny
import TreeAdapter.Proofs.Number
import TreeAdapter.Proofs.Text
import TreeAdapter.Proofs.Value.Cast

/-!
# Reading as text and back

A scalar that is neither a double nor a date has a text (`StoredValue.Textual.exists_scalarText`),
the one that `as_text` gives. The text is read back as the scalar by the type of its own kind, and
so is a binary that holds the text in UTF-8 (`cast_binary_eq_ok_iff`).

* `cast_reads_back` — the law, and what becomes of a binary that is not UTF-8
-/

namespace TreeAdapter
set_option autoImplicit false

/-! ## Texts of numbers and of bytes -/

namespace Text

theorem isTrimmed_of_forall {cs : List Char} (solid : ∀ c ∈ cs, isBlank c = false) :
    IsTrimmed cs where
  front _ mem := solid _ (List.mem_of_mem_head? mem)
  back _ mem := solid _ (List.mem_of_mem_getLast? mem)

theorem trim_of_isTrimmed {s : String} (h : IsTrimmed s.toList) : trim s = s := by
  rw [trim, h.trimChars_eq, String.ofList_toList]

end Text

namespace Number
open Text

theorem isBlank_of_isNumberChar {c : Char} (h : isNumberChar c = true) : isBlank c = false := by
  rw [isNumberChar, Bool.or_eq_true] at h
  rcases h with digit | sign
  · have range : 48 ≤ c.toNat ∧ c.toNat ≤ 57 := Char.isDigit_iff_toNat.1 digit
    simp only [isBlank, Bool.or_eq_false_iff, Bool.and_eq_false_iff, decide_eq_false_iff_not,
      beq_eq_false_iff_ne, ne_eq]
    omega
  · rw [List.contains_iff_mem] at sign
    have solid : ∀ c ∈ ['-', '+', '.', 'e', 'N', 'a', 'i', 'n', 'f'], isBlank c = false :=
      List.all_iff_forall_prop.1 (by decide)
    exact solid c sign

/-- No white space stands around the text of a number. -/
theorem trim_int64Text (n : Int64) : trim (int64Text n) = int64Text n := by
  refine trim_of_isTrimmed (isTrimmed_of_forall fun c mem => ?_)
  exact isBlank_of_isNumberChar (isNumberChar_of_mem_integerText c mem)

end Number

/-- The bytes of a text read back. -/
theorem fromUTF8?_toUTF8 (s : String) : String.fromUTF8? s.toUTF8 = some s := by
  rw [String.fromUTF8?, String.toUTF8_eq_toByteArray, dif_pos s.isValidUTF8]
  rfl

/-- A text that is read from bytes has those bytes. -/
theorem toUTF8_of_fromUTF8? {b : Bytes} {s : String} (h : String.fromUTF8? b = some s) :
    s.toUTF8 = b := by
  rw [String.fromUTF8?] at h
  split at h
  · obtain rfl := Option.some.inj h
    rfl
  · cases h

/-! ## Scalars that text keeps -/

/-- The declared type of what is stored as a kind. -/
def StoredKind.declared : StoredKind → DeclaredType
  | string => .string
  | name => .name
  | path => .path
  | reference => .reference
  | long => .long
  | double => .double
  | boolean => .boolean
  | date => .calendar
  | binary => .bytes

namespace StoredValue

/-- A scalar that its text keeps, and its payload: any but doubles and dates, and a binary when it
is UTF-8. -/
inductive Textual : StoredValue → Value → Prop where
  | string (s : String) : Textual (.string s) (.string s)
  | name (s : String) : Textual (.name s) (.string s)
  | path (s : String) : Textual (.path s) (.string s)
  | reference (s : String) : Textual (.reference s) (.string s)
  | long (n : Int64) : Textual (.long n) (.long n)
  | boolean (b : Bool) : Textual (.boolean b) (.bool b)
  | binary (b : Bytes) (valid : b.IsValidUTF8) : Textual (.binary b) (.bytes b)

variable {v : StoredValue} {payload : Value}

/-- A scalar of these kinds has a text. -/
theorem Textual.exists_scalarText (h : v.Textual payload) : ∃ s, v.scalarText = some s := by
  cases h with
  | binary b valid =>
    refine ⟨String.fromUTF8 b valid, ?_⟩
    rw [scalarText, heldText, String.fromUTF8?, dif_pos valid]
    all_goals simp
  | _ => exact ⟨_, rfl⟩

/-- A text is read as a Long once it is trimmed. -/
theorem fetchLong_string (s : String) :
    (string s).fetchLong = Number.readInt64 (Text.trim s) := by
  have held : (string s).heldText = some s := rfl
  simp [fetchLong, held]

/-- A binary that holds a text in UTF-8 is read as any kind as the text is. -/
theorem fetch?_binary_toUTF8 (s : String) (kind : StoredKind) :
    (binary s.toUTF8).fetch? kind = (string s).fetch? kind := by
  have held : (binary s.toUTF8).heldText = (string s).heldText := fromUTF8?_toUTF8 s
  cases kind with
  | binary => rfl
  | _ => simp only [fetch?, fetchBoolean, fetchDate, fetchDouble, fetchLong, scalarText, held]

end StoredValue

/-! ## Casting -/

theorem isArray_declared (kind : StoredKind) : kind.declared.isArray = false := by
  cases kind <;> rfl

/-- The bytes of a text are cast like the text. -/
theorem cast_binary_eq_ok_iff {declared : DeclaredType} (single : declared.isArray = false)
    {s : String} {v : Value} :
    cast (some (.binary s.toUTF8)) declared = .ok v ↔ cast (some (.string s)) declared = .ok v := by
  rw [cast_eq_ok_iff single, cast_eq_ok_iff single, Cast.scalar_eq_ok_iff, Cast.scalar_eq_ok_iff,
    StoredValue.fetch?_binary_toUTF8]

/-- What is read as the kind that a type is stored as, and is of the type, needs no coercion. -/
theorem cast_of_fetch? {raw : StoredValue} {declared : DeclaredType} {v : Value}
    (read : raw.fetch? declared.storage = some v) (fits : v.isAssignable declared = true) :
    cast (some raw) declared = .ok v := by
  have single := Value.isArray_of_isAssignable (StoredValue.fetch?_isScalar read) fits
  refine (cast_eq_ok_iff single).2 (Cast.scalar_eq_ok_iff.2 ⟨v, read, ?_⟩)
  rw [if_pos fits]

/-- A scalar with a text is cast to a string that is the text. -/
theorem cast_string_of_scalarText {v : StoredValue} {s : String} (h : v.scalarText = some s) :
    cast (some v) .string = .ok (.string s) := by
  refine cast_of_fetch? ?_ rfl
  rw [DeclaredType.storage, StoredValue.fetch?, h, Option.map_some]

/-- The text of a scalar is read back as its payload. -/
theorem cast_scalarText {v : StoredValue} {payload : Value} (h : v.Textual payload) {s : String}
    (text : v.scalarText = some s) : cast (some (.string s)) v.kind.declared = .ok payload := by
  cases h with
  | long n =>
    obtain rfl : Number.int64Text n = s := Option.some.inj text
    refine cast_of_fetch? ?_ rfl
    rw [StoredValue.kind, StoredKind.declared, DeclaredType.storage, StoredValue.fetch?,
      StoredValue.fetchLong_string, Number.trim_int64Text, Number.readInt64_int64Text,
      Option.map_some]
  | boolean b =>
    obtain rfl : Value.boolText b = s := Option.some.inj text
    cases b <;> rfl
  | binary b _ =>
    obtain rfl : s.toUTF8 = b := toUTF8_of_fromUTF8? text
    rfl
  | string s' | name s' | path s' | reference s' =>
    obtain rfl : s' = s := Option.some.inj text
    rfl

/-- A scalar that is neither a double nor a date, a binary only when it is UTF-8, has a text; and
the text, and a binary that holds it in UTF-8, are read as the type of its kind with its payload. A
binary that is not UTF-8 is no text, and keeps its bytes. -/
theorem cast_reads_back :
    (∀ v payload, StoredValue.Textual v payload → ∃ s, cast (some v) .string = .ok (.string s) ∧
      cast (some (.string s)) v.kind.declared = .ok payload ∧
      cast (some (.binary s.toUTF8)) v.kind.declared = .ok payload) ∧
    ∀ b : Bytes, ¬b.IsValidUTF8 →
      cast (some (.binary b)) .string = .error ⟨"Binary", "String"⟩ ∧
      cast (some (.binary b)) .bytes = .ok (.bytes b) := by
  constructor
  · intro v payload textual
    obtain ⟨s, text⟩ := textual.exists_scalarText
    have back := cast_scalarText textual text
    exact ⟨s, cast_string_of_scalarText text, back,
      (cast_binary_eq_ok_iff (isArray_declared v.kind)).2 back⟩
  · intro b invalid
    have unread : String.fromUTF8? b = none := by rw [String.fromUTF8?, dif_neg invalid]
    have fetched : (StoredValue.binary b).fetch? .string = none :=
      congrArg (Option.map Value.string) unread
    refine ⟨?_, rfl⟩
    show Cast.scalar (.binary b) .string = _
    rw [Cast.scalar, DeclaredType.storage, fetched]
    rfl

/-- The least number, a binary with a letter of two bytes, and the first of them alone. -/
theorem cast_reads_back_least :
    (∃ s, cast (some (.long Int64.minValue)) .string = .ok (.string s) ∧
      cast (some (.string s)) .long = .ok (.long Int64.minValue) ∧
      cast (some (.binary s.toUTF8)) .long = .ok (.long Int64.minValue)) ∧
    (∃ s, cast (some (.binary "é".toUTF8)) .string = .ok (.string s) ∧
      cast (some (.string s)) .bytes = .ok (.bytes "é".toUTF8) ∧
      cast (some (.binary s.toUTF8)) .bytes = .ok (.bytes "é".toUTF8)) ∧
    ¬(ByteArray.mk #[0xC3]).IsValidUTF8 ∧
    cast (some (.binary ⟨#[0xC3]⟩)) .string = .error ⟨"Binary", "String"⟩ ∧
    cast (some (.binary ⟨#[0xC3]⟩)) .bytes = .ok (.bytes ⟨#[0xC3]⟩) := by
  obtain ⟨back, broken⟩ := cast_reads_back
  have half : ¬(ByteArray.mk #[0xC3]).IsValidUTF8 := by decide
  exact ⟨back _ _ (.long Int64.minValue), back _ _ (.binary "é".toUTF8 "é".isValidUTF8), half,
    broken _ half⟩

end TreeAdapter
