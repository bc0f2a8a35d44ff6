import TreeAdapter.DeclaredType
import TreeAdapter.Proofs.Except
import TreeAdapter.Proofs.Text

/-!
# Texts of types

Types are read by `from_str` and shown by `fmt`. The names in a type that a text names are
identifiers (`WellNamed`), so its text holds no white space, and reading it finds the same brackets
and names again. What it does not find again is an interface that has the name of a built-in type:
its text is that name alone, and is read as the built-in type (`shown`).

* `text_reads_back` — what the text of a type is read as, and when that is the type itself
-/

namespace TreeAdapter.DeclaredType
set_option autoImplicit false
open Text

/-! ## Names -/

/-- A name is read when what is left of the text after trimming is an identifier. -/
theorem identifier_eq_ok_iff {cs : List Char} {n : String} :
    identifier cs = .ok n ↔ trimChars cs = n.toList ∧ isIdentifier n.toList = true := by
  unfold identifier
  dsimp only
  constructor
  · intro read
    split at read
    · next valid =>
      cases read
      rw [String.toList_ofList]
      exact ⟨rfl, valid⟩
    · cases read
  · rintro ⟨trimmed, valid⟩
    simp [trimmed, valid]

/-- The names in a type are identifiers. -/
def WellNamed : DeclaredType → Prop
  | array element => element.WellNamed
  | adapter n | object n => identifier n.toList = .ok n
  | _ => True

/-- An identifier that was read is read again as itself. -/
theorem identifier_self {cs : List Char} {n : String} (h : identifier cs = .ok n) :
    identifier n.toList = .ok n := by
  obtain ⟨trimmed, valid⟩ := identifier_eq_ok_iff.1 h
  have ends := isTrimmed_trimChars cs
  rw [trimmed] at ends
  exact identifier_eq_ok_iff.2 ⟨ends.trimChars_eq, valid⟩

/-- A name that reads as itself is made of identifier characters. -/
theorem isIdentifierChar_of_mem {n : String} (named : identifier n.toList = .ok n) {c : Char}
    (mem : c ∈ n.toList) : isIdentifierChar c = true := by
  have valid := (identifier_eq_ok_iff.1 named).2
  cases chars : n.toList with
  | nil => simp [chars] at mem
  | cons d ds =>
    rw [chars] at valid mem
    simp only [isIdentifier, Bool.and_eq_true] at valid
    exact List.all_eq_true.1 valid.2 c mem

/-- So it holds no bracket or other mark. -/
theorem not_mem_of_identifier {n : String} (named : identifier n.toList = .ok n) {c : Char}
    (other : isIdentifierChar c = false) : c ∉ n.toList := by
  intro mem
  rw [isIdentifierChar_of_mem named mem] at other
  cases other

/-- A character that the text of a type may hold. -/
def isTypeChar (c : Char) : Bool :=
  isIdentifierChar c || ['<', '>', '[', ']'].contains c

/-- The text of a type is made of identifier characters and brackets. -/
theorem isTypeChar_of_mem_text {t : DeclaredType} (named : t.WellNamed) :
    ∀ c ∈ t.text.toList, isTypeChar c = true := by
  have name {n : String} (named : identifier n.toList = .ok n) :
      ∀ c ∈ n.toList, isTypeChar c = true := by
    intro c mem
    simp [isTypeChar, isIdentifierChar_of_mem named mem]
  induction t with
  | array element ih =>
    simp only [text, String.toList_append, List.forall_mem_append]
    exact ⟨ih named, List.all_eq_true.1 (by decide)⟩
  | adapter n => exact name named
  | object n =>
    simp only [text, String.toList_append, List.forall_mem_append]
    exact ⟨⟨List.all_eq_true.1 (by decide), name named⟩, List.all_eq_true.1 (by decide)⟩
  | _ => exact List.all_eq_true.1 (by decide)

/-- The text of a type is not empty and has no white space around it. -/
theorem isTrimmed_text {t : DeclaredType} (named : t.WellNamed) :
    t.text.toList ≠ [] ∧ IsTrimmed t.text.toList := by
  induction t with
  | array element ih =>
    obtain ⟨nonempty, trimmed⟩ := ih named
    have whole : (array element).text.toList = element.text.toList ++ ['['] ++ [']'] := by
      simp [text]
    rw [whole]
    exact ⟨by simp, trimmed.append nonempty ['['] (by decide)⟩
  | adapter n =>
    obtain ⟨trimmed, valid⟩ := identifier_eq_ok_iff.1 named
    have ends := isTrimmed_trimChars n.toList
    rw [trimmed] at ends
    refine ⟨fun empty => ?_, ends⟩
    simp only [text] at empty
    simp [empty, isIdentifier] at valid
  | object n =>
    have whole : (object n).text.toList = "Object<".toList ++ n.toList ++ ['>'] := by simp [text]
    rw [whole]
    have opening : IsTrimmed "Object<".toList := by decide
    exact ⟨by simp, opening.append (by decide) n.toList (by decide)⟩
  | _ => exact ⟨by decide, by decide⟩

/-! ## Reading texts -/

/-- A text with `[]` behind it is an array of what the text says. -/
theorem elementOf_append (cs : List Char) : elementOf (cs ++ ['[', ']']) = some cs := by
  simp [elementOf]

theorem elementOf_eq_none {cs : List Char} (h : ']' ∉ cs) : elementOf cs = none := by
  unfold elementOf
  split
  · next rest reversed =>
    have mem : ']' ∈ cs.reverse := by simp [reversed]
    exact absurd (List.mem_reverse.1 mem) h
  · rfl

theorem argumentOf_eq_none {outer : String} {cs : List Char} (h : '<' ∉ cs) :
    argumentOf outer cs = none := by
  unfold argumentOf
  dsimp only
  split
  · next opens =>
    have front := (List.isPrefixOf_iff_prefix.1 opens).subset
    exact absurd (front (by simp)) h
  · rfl

/-- The built-in types name nothing. -/
theorem wellNamed_of_builtin? {name : String} {t : DeclaredType} (h : builtin? name = some t) :
    t.WellNamed := by
  unfold builtin? at h
  split at h <;> cases h <;> trivial

/-- The name in a type that is no array was read as an identifier. -/
theorem wellNamed_of_parseScalar {cs : List Char} {t : DeclaredType}
    (h : parseScalar cs = .ok t) : t.WellNamed := by
  unfold parseScalar at h
  split at h
  · obtain ⟨n, named, rfl⟩ := map_eq_ok.1 h
    exact identifier_self named
  · split at h
    · obtain ⟨n, named, rfl⟩ := map_eq_ok.1 h
      exact identifier_self named
    · split at h
      · next builtin =>
        cases h
        exact wellNamed_of_builtin? builtin
      · obtain ⟨n, named, rfl⟩ := map_eq_ok.1 h
        exact identifier_self named

/-- A type that is read is well named: every name in it was read as an identifier. -/
theorem wellNamed_of_parse {s : String} {t : DeclaredType} (h : parse s = .ok t) :
    t.WellNamed := by
  unfold parse at h
  generalize s.toList = cs at h
  fun_induction parseChars cs generalizing t with
  | case1 cs element _ ih =>
    obtain ⟨e, read, rfl⟩ := map_eq_ok.1 h
    have named : e.WellNamed := ih read
    exact named
  | case2 cs _ => exact wellNamed_of_parseScalar h

/-- The type that the text of a type is read as: an interface that has the name of a built-in type
is read as that. -/
def shown : DeclaredType → DeclaredType
  | array element => array element.shown
  | adapter n => (builtin? n).getD (adapter n)
  | t => t

/-- The text of an array is read by reading that of its element. -/
theorem parseChars_text_array {element : DeclaredType} (named : element.WellNamed) :
    parseChars (array element).text.toList = (parseChars element.text.toList).map array := by
  have whole : (array element).text.toList = element.text.toList ++ ['[', ']'] := by simp [text]
  have split : elementOf (trimChars (array element).text.toList) = some element.text.toList := by
    rw [(isTrimmed_text (t := array element) named).2.trimChars_eq, whole, elementOf_append]
  rw [parseChars]
  split
  · next found =>
    rw [split] at found
    cases found
    rfl
  · next found =>
    rw [split] at found
    cases found

/-- What does not close with `[]` is no array. -/
theorem parseChars_scalar {cs : List Char} (trimmed : IsTrimmed cs) (h : elementOf cs = none) :
    parseChars cs = parseScalar cs := by
  rw [parseChars, trimmed.trimChars_eq]
  split
  · next found =>
    rw [h] at found
    cases found
  · rfl

theorem parseChars_text_scalar {t : DeclaredType} (named : t.WellNamed) (h : ']' ∉ t.text.toList) :
    parseChars t.text.toList = parseScalar t.text.toList :=
  parseChars_scalar (isTrimmed_text named).2 (elementOf_eq_none h)

/-- The name of an adapter is read as what it shows as: the built-in type of that name, if there is
one. -/
theorem parseScalar_adapter {n : String} (named : identifier n.toList = .ok n) :
    parseScalar n.toList = .ok (adapter n).shown := by
  have opening : '<' ∉ n.toList := not_mem_of_identifier named (by decide)
  rw [parseScalar, argumentOf_eq_none opening, argumentOf_eq_none opening, String.ofList_toList,
    named, shown]
  cases builtin? n <;> rfl

/-- The text of an object type reads back. -/
theorem parseScalar_object {n : String} (named : identifier n.toList = .ok n) :
    parseScalar (object n).text.toList = .ok (object n) := by
  have whole : (object n).text.toList = "Object<".toList ++ n.toList ++ ['>'] := by simp [text]
  have other : argumentOf "Adapter" (object n).text.toList = none := by
    rw [whole]
    rfl
  have inner : argumentOf "Object" (object n).text.toList = some n.toList := by
    rw [whole]
    simp [argumentOf]
  rw [parseScalar, other, inner]
  simp [named, Except.map]

/-- What the text of a type is read as. -/
theorem parse_text {t : DeclaredType} (named : t.WellNamed) : parse t.text = .ok t.shown := by
  unfold parse
  induction t with
  | array element ih =>
    rw [@parseChars_text_array element named, ih named]
    rfl
  | adapter n =>
    have plain : ']' ∉ n.toList := not_mem_of_identifier named (by decide)
    rw [parseChars_text_scalar named plain]
    exact parseScalar_adapter named
  | object n =>
    have plain : ']' ∉ n.toList := not_mem_of_identifier named (by decide)
    rw [parseChars_text_scalar named (by simp [text, plain])]
    exact parseScalar_object named
  | _ =>
    rw [parseChars_text_scalar named (by decide)]
    rfl

/-- Only an interface that has the name of a built-in type is read as something else. -/
theorem shown_eq_self_iff (t : DeclaredType) :
    t.shown = t ↔ ∀ n, t.innermost = adapter n → builtin? n = none := by
  induction t with
  | array element ih => simp [shown, innermost, ih]
  | adapter n =>
    cases builtin : builtin? n with
    | none => simp [shown, innermost, builtin]
    | some u =>
      have other : u ≠ adapter n := by
        rintro rfl
        unfold builtin? at builtin
        split at builtin <;> cases builtin
      simp [shown, innermost, builtin, other]
  | _ => simp [shown, innermost]

/-- The text of a type that a text names is read as the type itself unless it is, under its
brackets, an interface that has the name or an alias of a built-in type; then it is read as that
built-in type. Two types of one text are read as the same type, so of those that are read as
themselves no two have the same text. -/
theorem text_reads_back {s : String} {t : DeclaredType} (h : parse s = .ok t) :
    parse t.text = .ok t.shown ∧
    (t.shown = t ↔ ∀ n, t.innermost = adapter n → builtin? n = none) ∧
    ∀ s' u, parse s' = .ok u → u.text = t.text → u.shown = t.shown := by
  have reads : parse t.text = .ok t.shown := parse_text (wellNamed_of_parse h)
  refine ⟨reads, shown_eq_self_iff t, ?_⟩
  intro s' u h' same
  have reads' : parse u.text = .ok u.shown := parse_text (wellNamed_of_parse h')
  rw [same, reads] at reads'
  exact (Except.ok.inj reads').symm

/-- The interface `String` is written as the text type is, and is read as that. -/
theorem text_reads_back_interface :
    parse " Adapter< String >" = .ok (adapter "String") ∧ (adapter "String").text = "String" ∧
      parse "String" = .ok string ∧ (adapter "String").shown ≠ adapter "String" := by
  have named : parse " Adapter< String >" = .ok (adapter "String") := by
    rw [parse, parseChars]
    decide +kernel
  have builtin : builtin? "String" = some string := rfl
  refine ⟨named, rfl, (text_reads_back named).1, fun same => ?_⟩
  have absent := (text_reads_back named).2.1.1 same "String" rfl
  rw [builtin] at absent
  cases absent

end TreeAdapter.DeclaredType
