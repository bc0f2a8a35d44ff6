import TreeAdapter.Proofs.Except
import TreeAdapter.Proofs.Text
import TreeAdapter.Service.Directory

/-!
# The language of service filters

Filters are written as a clause in parentheses, or as `&` with clauses in parentheses; what a value
may hold in either form is a parameter of the grammar (`Filter.Written`). What `parse_filter` reads
is exactly the grammar in which a single value holds anything and one of several anything but `)`
(`Filter.parse_eq_ok_iff`). The documented filters are those without parentheses in values.

* `StaticLocator.byFilter_accepts_iff` — which filters are accepted, and which of those are not
  documented
-/

namespace TreeAdapter
set_option autoImplicit false
open Text

/-! ## The grammar -/

/-- A key, `=` and a value, with white space around each; the value holds what `ok` admits. -/
inductive Clause.Written (ok : Char → Prop) : List Char → Clause → Prop where
  | intro {key value : List Char} (cut : '=' ∉ key) (named : trimChars key ≠ [])
      (free : ∀ c ∈ trimChars key, isReserved c = false) (held : ∀ c ∈ value, ok c) :
      Written ok (key ++ '=' :: value) ⟨String.ofList (trimChars key), String.ofList (trimChars value)⟩

namespace Filter

/-- Clauses in parentheses, at least one, with white space between them. -/
inductive Listed (ok : Char → Prop) : List Char → List Clause → Prop where
  | last {text : List Char} {clause : Clause} (written : clause.Written ok text) :
      Listed ok ('(' :: text ++ [')']) [clause]
  | cons {text blanks rest : List Char} {clause : Clause} {clauses : List Clause}
      (written : clause.Written ok text) (blank : blanks.all isBlank = true)
      (later : Listed ok rest clauses) :
      Listed ok ('(' :: text ++ ')' :: (blanks ++ rest)) (clause :: clauses)

/-- One clause in parentheses, or `&` and several; `one` and `many` say what values hold. -/
inductive Written (one many : Char → Prop) : List Char → List Clause → Prop where
  | single {text : List Char} {clause : Clause} (written : clause.Written one text) :
      Written one many ('(' :: text ++ [')']) [clause]
  | several {front text back : List Char} {clauses : List Clause}
      (before : front.all isBlank = true) (listed : Listed many text clauses)
      (behind : back.all isBlank = true) :
      Written one many ('(' :: ('&' :: (front ++ text ++ back)) ++ [')']) clauses

/-- The text of a filter reads as clauses, up to the white space around it. -/
def Reads (one many : Char → Prop) (filter : String) (clauses : List Clause) : Prop :=
  ∃ front text back, filter.toList = front ++ text ++ back ∧ front.all isBlank = true ∧
    back.all isBlank = true ∧ Written one many text clauses

def IsParenthesis (c : Char) : Prop :=
  c = '(' ∨ c = ')'

/-- A filter of the documented language: no value holds a parenthesis. -/
def IsDocumented (filter : String) : Prop :=
  ∃ clauses, Reads (¬IsParenthesis ·) (¬IsParenthesis ·) filter clauses

/-- A filter of the language that is read: a single value may hold parentheses, and one of
several may hold those that open. -/
def IsAccepted (filter : String) : Prop :=
  ∃ clauses, Reads (fun _ => True) (· ≠ ')') filter clauses

end Filter

/-! ## One clause -/

namespace Clause
variable {ok : Char → Prop} {cs : List Char} {c : Clause}

/-- Reading a clause is exact for the grammar in which a value holds anything. -/
theorem parse_eq_some_iff : parse cs = some c ↔ c.Written (fun _ => True) cs := by
  constructor
  · intro h
    unfold parse at h
    split at h
    · cases h
    · next key value cut =>
      obtain ⟨rfl, first⟩ := cutFirst_eq_some cut
      dsimp only at h
      split at h
      · cases h
      · next good =>
        cases h
        simp only [Bool.or_eq_true, not_or, Bool.not_eq_true, List.isEmpty_eq_false_iff,
          List.any_eq_false] at good
        exact .intro first good.1 good.2 fun _ _ => trivial
  · rintro ⟨first, named, free, _⟩
    rw [parse, cutFirst_append first]
    dsimp only
    rw [if_neg]
    simp only [Bool.or_eq_true, not_or, Bool.not_eq_true, List.isEmpty_eq_false_iff,
      List.any_eq_false]
    exact ⟨named, free⟩

/-- What the trimmed value may hold besides white space is what the value may hold. -/
theorem Written.restrict {ok' : Char → Prop} (h : c.Written ok cs)
    (blank : ∀ ch, isBlank ch = true → ok' ch) (held : ∀ ch ∈ c.value.toList, ok' ch) :
    c.Written ok' cs := by
  obtain ⟨cut, named, free, _⟩ := h
  refine .intro cut named free fun ch mem => ?_
  rcases mem_trimChars_or_isBlank mem with inside | outside
  · exact held ch (by rwa [String.toList_ofList])
  · exact blank ch outside

/-- The trimmed value holds nothing that the written one may not. -/
theorem Written.held (h : c.Written ok cs) : ∀ ch ∈ c.value.toList, ok ch := by
  obtain ⟨_, _, _, held⟩ := h
  intro ch mem
  rw [String.toList_ofList] at mem
  exact held ch (mem_of_mem_trimChars mem)

/-- A clause whose whole text is admitted has a value that is. -/
theorem Written.of_forall {ok' : Char → Prop} (h : c.Written ok cs) (all : ∀ ch ∈ cs, ok' ch) :
    c.Written ok' cs := by
  obtain ⟨cut, named, free, _⟩ := h
  refine .intro cut named free fun ch mem => ?_
  exact all ch (List.mem_append_right _ (List.mem_cons_of_mem _ mem))

/-- White space is never reserved, so trimming a key takes no reserved character away. -/
theorem isReserved_of_isBlank {ch : Char} (h : isBlank ch = true) : isReserved ch = false := by
  rw [← Bool.not_eq_true]
  intro reserved
  simp only [isReserved, Bool.or_eq_true, beq_iff_eq] at reserved
  rcases reserved with (((rfl | rfl) | rfl) | rfl) | rfl <;> exact absurd h (by decide)

/-- White space in a key aside, no character of it is reserved. -/
theorem not_isReserved_of_mem {key : List Char} (free : ∀ ch ∈ trimChars key, isReserved ch = false)
    {ch : Char} (mem : ch ∈ key) : isReserved ch = false := by
  rcases mem_trimChars_or_isBlank mem with inside | outside
  · exact free ch inside
  · exact isReserved_of_isBlank outside

/-- No key holds `)` either. -/
theorem Written.close_notMem (h : c.Written (· ≠ ')') cs) : ')' ∉ cs := by
  obtain ⟨cut, named, free, held⟩ := h
  intro mem
  rcases List.mem_append.1 mem with inKey | behind
  · exact absurd (not_isReserved_of_mem free inKey) (by decide)
  · rcases List.mem_cons.1 behind with sign | inValue
    · exact absurd sign (by decide)
    · exact held ')' inValue rfl

/-- A clause begins with no reserved character. -/
theorem Written.not_isReserved {ch : Char} {rest : List Char} (h : c.Written ok (ch :: rest)) :
    isReserved ch = false := by
  generalize whole : ch :: rest = cs at h
  cases h with
  | @intro key value _ named free _ =>
    cases key with
    | nil => exact absurd rfl named
    | cons k key =>
      rw [List.cons_append, List.cons.injEq] at whole
      rw [whole.1]
      exact not_isReserved_of_mem free List.mem_cons_self

end Clause

/-! ## Several clauses -/

namespace Filter

theorem isTrimmed_parenthesized (text : List Char) : IsTrimmed ('(' :: text ++ [')']) :=
  IsTrimmed.append (by decide : IsTrimmed ['(']) (by decide) text (by decide)

theorem Listed.exists_parenthesized {ok : Char → Prop} {cs : List Char} {clauses : List Clause}
    (h : Listed ok cs clauses) : ∃ middle, cs = '(' :: middle ++ [')'] := by
  induction h with
  | last _ => exact ⟨_, rfl⟩
  | @cons text blanks _ _ _ _ _ _ ih =>
    obtain ⟨middle, rfl⟩ := ih
    exact ⟨text ++ ')' :: (blanks ++ '(' :: middle), by simp⟩

/-- A list of clauses has no white space around it, so it is read where it begins. -/
theorem Listed.isTrimmed {ok : Char → Prop} {cs : List Char} {clauses : List Clause}
    (h : Listed ok cs clauses) : IsTrimmed cs := by
  obtain ⟨middle, rfl⟩ := h.exists_parenthesized
  exact isTrimmed_parenthesized middle

/-- The texts of a list are found one clause at a time: up to the first `)`, then past the white
space behind it. -/
theorem clauseTexts_cons {text : List Char} (plain : ')' ∉ text) (tail : List Char) :
    clauseTexts ('(' :: text ++ ')' :: tail) =
      (clauseTexts (tail.dropWhile isBlank)).map (text :: ·) := by
  have first : cutFirst ')' (text ++ ')' :: tail) = some (text, tail) := cutFirst_append plain tail
  rw [List.cons_append, clauseTexts]
  split
  · next uncut => simp [first] at uncut
  · next clause after cut =>
    cases first.symm.trans cut
    rfl

/-- Clauses are read one by one, and all must be readable. -/
theorem mapM_parse_cons {text : List Char} {texts : List (List Char)} {clauses : List Clause} :
    (text :: texts).mapM Clause.parse = some clauses ↔
      ∃ c cs, Clause.parse text = some c ∧ texts.mapM Clause.parse = some cs ∧ c :: cs = clauses := by
  simp only [List.mapM_cons, Option.bind_eq_bind, Option.bind_eq_some_iff, Option.pure_def,
    Option.some.injEq, exists_and_left]

/-- What the grammar lists is read: the parentheses are found and each clause between them. -/
theorem exists_clauseTexts_of_listed {cs : List Char} {clauses : List Clause}
    (h : Listed (· ≠ ')') cs clauses) :
    ∃ texts, clauseTexts cs = some texts ∧ texts ≠ [] ∧ texts.mapM Clause.parse = some clauses := by
  induction h with
  | @last text clause written =>
    have one : Clause.parse text = some clause :=
      Clause.parse_eq_some_iff.2 (written.of_forall fun _ _ => trivial)
    refine ⟨[text], ?_, List.cons_ne_nil _ _, mapM_parse_cons.2 ⟨_, [], one, rfl, rfl⟩⟩
    rw [clauseTexts_cons written.close_notMem, List.dropWhile_nil, clauseTexts]
    rfl
  | @cons text blanks rest clause clauses written blank later ih =>
    obtain ⟨texts, read, _, parsed⟩ := ih
    have one : Clause.parse text = some clause :=
      Clause.parse_eq_some_iff.2 (written.of_forall fun _ _ => trivial)
    have skipped : (blanks ++ rest).dropWhile isBlank = rest := by
      rw [List.dropWhile_append_of_pos (List.all_eq_true.1 blank),
        dropWhile_isBlank_of_head? later.isTrimmed.front]
    refine ⟨text :: texts, ?_, List.cons_ne_nil _ _, mapM_parse_cons.2 ⟨_, _, one, parsed, rfl⟩⟩
    rw [clauseTexts_cons written.close_notMem, skipped, read]
    rfl

theorem eq_nil_of_clauseTexts {cs : List Char} (h : clauseTexts cs = some []) : cs = [] := by
  unfold clauseTexts at h
  split at h
  · rfl
  · split at h
    · cases h
    · simp at h
  · cases h

/-- What is read is a list of the grammar, up to white space behind the last clause. -/
theorem listed_of_clauseTexts {cs : List Char} {texts : List (List Char)} {clauses : List Clause}
    (read : clauseTexts cs = some texts) (nonempty : texts ≠ [])
    (parsed : texts.mapM Clause.parse = some clauses) :
    ∃ core back, cs = core ++ back ∧ back.all isBlank = true ∧ Listed (· ≠ ')') core clauses := by
  fun_induction clauseTexts cs generalizing texts clauses with
  | case1 => exact absurd (Option.some.inj read).symm nonempty
  | case2 | case4 => cases read
  | case3 rest text after cut ih =>
    obtain ⟨rfl, plain⟩ := cutFirst_eq_some cut
    obtain ⟨later, readLater, rfl⟩ := Option.map_eq_some_iff.1 read
    obtain ⟨c, cs, one, parsedLater, rfl⟩ := mapM_parse_cons.1 parsed
    have written : c.Written (· ≠ ')') text :=
      (Clause.parse_eq_some_iff.1 one).of_forall fun ch mem close => plain (close ▸ mem)
    have whole := List.takeWhile_append_dropWhile (p := isBlank) (l := after)
    by_cases alone : later = []
    · -- after the last clause there is only white space, and that is no part of the list
      subst alone
      cases parsedLater
      rw [eq_nil_of_clauseTexts readLater, List.append_nil] at whole
      have blank : after.all isBlank = true := whole ▸ List.all_takeWhile
      exact ⟨'(' :: text ++ [')'], after, by simp, blank, .last written⟩
    · obtain ⟨core, back, split, blank, listed⟩ := ih readLater alone parsedLater
      have spaces : (after.takeWhile isBlank).all isBlank = true := List.all_takeWhile
      refine ⟨_, back, ?_, blank, .cons written spaces listed⟩
      rw [split] at whole
      generalize after.takeWhile isBlank = blanks at whole
      simp [← whole]

/-! ## A filter -/

section
variable {one many : Char → Prop} {cs : List Char} {clauses : List Clause}

/-- A filter begins and ends with a parenthesis, so trimming leaves it alone. -/
theorem Written.isTrimmed (h : Written one many cs clauses) : IsTrimmed cs := by
  cases h with
  | single _ => exact isTrimmed_parenthesized _
  | several _ _ _ => exact isTrimmed_parenthesized _

/-- A text reads as clauses when it is written so once the white space around it is trimmed. -/
theorem reads_iff {filter : String} :
    Reads one many filter clauses ↔ Written one many (trimChars filter.toList) clauses := by
  constructor
  · rintro ⟨front, text, back, whole, before, behind, written⟩
    rwa [whole, written.isTrimmed.trimChars_append before behind]
  · intro written
    obtain ⟨front, back, whole, before, behind⟩ := exists_trimChars filter.toList
    exact ⟨front, _, back, whole, before, behind, written⟩

/-- The body of a filter is what stands between the parentheses around the trimmed text. -/
theorem body_eq_some_iff {filter : String} {inner : List Char} :
    body filter = some inner ↔ trimChars filter.toList = '(' :: inner ++ [')'] := by
  unfold body
  split
  · next rest open_ =>
    rw [open_, List.cons_append, List.cons.injEq]
    split
    · next close =>
      have whole := List.dropLast_append_getLast? ')' close
      constructor
      · rintro ⟨rfl⟩
        exact ⟨rfl, whole.symm⟩
      · rintro ⟨_, rfl⟩
        simp
    · next unclosed =>
      constructor
      · intro h
        cases h
      · rintro ⟨_, rfl⟩
        simp at unclosed
  · next closed =>
    constructor
    · intro h
      cases h
    · intro h
      exact absurd h (closed _)

end

/-- A body that does not begin with `&` is one clause, whatever parentheses it holds. -/
theorem clauses?_of_single {filter : String} {inner : List Char} (shown : body filter = some inner)
    (plain : inner.head? ≠ some '&') : clauses? filter = (Clause.parse inner).map ([·]) := by
  have one : texts filter = some [inner] := by
    unfold texts
    rw [shown]
    split
    · cases ‹_›
    · next rest first =>
      cases first
      exact absurd rfl plain
    · cases ‹_›
      rfl
  rw [clauses?, one]
  show [inner].mapM Clause.parse = _
  cases parsed : Clause.parse inner <;> simp [parsed]

/-- A body that begins with `&` is a list of one clause or more. -/
theorem clauses?_of_several {filter : String} {inner : List Char}
    (shown : body filter = some ('&' :: inner)) {clauses : List Clause} :
    clauses? filter = some clauses ↔ ∃ texts, clauseTexts (trimChars inner) = some texts ∧
      texts ≠ [] ∧ texts.mapM Clause.parse = some clauses := by
  have all : texts filter = clauseTexts (trimChars inner) := by
    rw [texts, shown]
    rfl
  unfold clauses?
  rw [all]
  split
  · next unread => simp [unread]
  · next empty => simp [empty]
  · next texts nonempty read =>
    have found : texts ≠ [] := nonempty
    simp [read, found]

theorem clauses?_eq_none_of_body {filter : String} (h : body filter = none) :
    clauses? filter = none := by
  simp [clauses?, texts, h]

/-- What is read was written by the grammar. -/
theorem written_of_clauses? {filter : String} {clauses : List Clause}
    (h : clauses? filter = some clauses) :
    Written (fun _ => True) (· ≠ ')') (trimChars filter.toList) clauses := by
  cases shown : body filter with
  | none => simp [clauses?_eq_none_of_body shown] at h
  | some inner =>
    rw [body_eq_some_iff.1 shown]
    by_cases several : inner.head? = some '&'
    · obtain ⟨rest, rfl⟩ := List.head?_eq_some_iff.1 several
      obtain ⟨texts, read, nonempty, parsed⟩ := (clauses?_of_several shown).1 h
      obtain ⟨core, blanks, split, blank, listed⟩ := listed_of_clauseTexts read nonempty parsed
      obtain ⟨front, back, whole, before, behind⟩ := exists_trimChars rest
      have spaces : (blanks ++ back).all isBlank = true := by
        rw [List.all_append, blank, behind]
        rfl
      rw [whole, split, List.append_assoc front, List.append_assoc core, ← List.append_assoc]
      exact .several before listed spaces
    · rw [clauses?_of_single shown several] at h
      obtain ⟨clause, parsed, rfl⟩ := Option.map_eq_some_iff.1 h
      exact .single (Clause.parse_eq_some_iff.1 parsed)

/-- What the grammar writes is read. -/
theorem clauses?_of_written {filter : String} {clauses : List Clause}
    (h : Written (fun _ => True) (· ≠ ')') (trimChars filter.toList) clauses) :
    clauses? filter = some clauses := by
  generalize shown : trimChars filter.toList = text at h
  cases h with
  | @single text clause written =>
    have plain : text.head? ≠ some '&' := by
      intro first
      obtain ⟨rest, rfl⟩ := List.head?_eq_some_iff.1 first
      exact absurd written.not_isReserved (by decide)
    rw [clauses?_of_single (body_eq_some_iff.2 shown) plain, Clause.parse_eq_some_iff.2 written]
    rfl
  | several before listed behind =>
    rw [clauses?_of_several (body_eq_some_iff.2 shown),
      listed.isTrimmed.trimChars_append before behind]
    exact exists_clauseTexts_of_listed listed

theorem clauses?_eq_some_iff {filter : String} {clauses : List Clause} :
    clauses? filter = some clauses ↔
      Written (fun _ => True) (· ≠ ')') (trimChars filter.toList) clauses :=
  ⟨written_of_clauses?, clauses?_of_written⟩

/-- Reading a filter is exact for the grammar in which a single value holds anything and one of
several anything but `)`. -/
theorem parse_eq_ok_iff {filter : String} {clauses : List Clause} :
    parse filter = .ok clauses ↔ Reads (fun _ => True) (· ≠ ')') filter clauses := by
  rw [reads_iff, ← clauses?_eq_some_iff, parse]
  cases clauses? filter with
  | none => simp
  | some found => simp

/-! ## What values hold -/

section
variable {ok one many one' many' : Char → Prop} {cs : List Char} {clauses : List Clause}

/-- The values of a list may be held to a narrower class that they keep, if white space is in it. -/
theorem Listed.restrict (h : Listed many cs clauses) (blank : ∀ ch, isBlank ch = true → many' ch)
    (held : ∀ c ∈ clauses, ∀ ch ∈ c.value.toList, many' ch) : Listed many' cs clauses := by
  induction h with
  | last written => exact .last (written.restrict blank (held _ List.mem_cons_self))
  | cons written space _ ih =>
    rw [List.forall_mem_cons] at held
    exact .cons (written.restrict blank held.1) space (ih held.2)

theorem Listed.held (h : Listed many cs clauses) :
    ∀ c ∈ clauses, ∀ ch ∈ c.value.toList, many ch := by
  induction h with
  | last written => exact List.forall_mem_singleton.2 written.held
  | cons written _ _ ih => exact List.forall_mem_cons.2 ⟨written.held, ih⟩

theorem Written.restrict (h : Written one many cs clauses)
    (blank : ∀ ch, isBlank ch = true → one' ch ∧ many' ch)
    (held : ∀ c ∈ clauses, ∀ ch ∈ c.value.toList, one' ch ∧ many' ch) :
    Written one' many' cs clauses := by
  cases h with
  | single written =>
    exact .single (written.restrict (fun ch space => (blank ch space).1)
      fun ch mem => (held _ List.mem_cons_self ch mem).1)
  | several before listed behind =>
    exact .several before (listed.restrict (fun ch space => (blank ch space).2)
      fun c mem ch inside => (held c mem ch inside).2) behind

theorem Written.held (h : Written ok ok cs clauses) :
    ∀ c ∈ clauses, ∀ ch ∈ c.value.toList, ok ch := by
  cases h with
  | single written => exact List.forall_mem_singleton.2 written.held
  | several _ listed _ => exact listed.held

end

theorem not_isParenthesis_of_isBlank {ch : Char} (h : isBlank ch = true) : ¬IsParenthesis ch := by
  rintro (rfl | rfl) <;> exact absurd h (by decide)

/-- The documented filters are those read as clauses without parentheses in their values. -/
theorem isDocumented_iff {filter : String} : IsDocumented filter ↔ ∃ clauses,
    parse filter = .ok clauses ∧ ∀ c ∈ clauses, ∀ ch ∈ c.value.toList, ¬IsParenthesis ch := by
  refine exists_congr fun clauses => ?_
  rw [parse_eq_ok_iff, reads_iff, reads_iff]
  constructor
  · intro written
    have plain := written.held
    refine ⟨written.restrict (fun ch space => ⟨trivial, ?_⟩) fun c mem ch inside => ⟨trivial, ?_⟩, plain⟩
    · rintro rfl
      exact not_isParenthesis_of_isBlank space (.inr rfl)
    · rintro rfl
      exact plain c mem _ inside (.inr rfl)
  · rintro ⟨written, plain⟩
    exact written.restrict
      (fun ch space => ⟨not_isParenthesis_of_isBlank space, not_isParenthesis_of_isBlank space⟩)
      fun c mem ch inside => ⟨plain c mem ch inside, plain c mem ch inside⟩

theorem isAccepted_iff {filter : String} :
    IsAccepted filter ↔ ∃ clauses, parse filter = .ok clauses :=
  exists_congr fun _ => parse_eq_ok_iff.symm

end Filter

/-! ## Search by filter -/

namespace StaticLocator
variable {β : Type} (l : StaticLocator β) (service filter : String)

/-- A lookup by filter gives an answer, found or not, exactly for a filter of the language. -/
theorem exists_byFilter_iff :
    (∃ found, l.byFilter service filter = .ok found) ↔ Filter.IsAccepted filter := by
  rw [Filter.isAccepted_iff, byFilter]
  cases Filter.parse filter with
  | error e => simp [bind, Except.bind]
  | ok clauses => simp [bind, Except.bind, pure, Except.pure]

/-- A lookup fails exactly for a filter outside the language, and the error names that filter. -/
theorem byFilter_eq_error_iff :
    l.byFilter service filter = .error (.invalidSpec (.unsupportedFilter filter)) ↔
      ¬Filter.IsAccepted filter := by
  rw [Filter.isAccepted_iff, byFilter, Filter.parse]
  cases Filter.clauses? filter with
  | none => simp [bind, Except.bind]
  | some clauses => simp [bind, Except.bind, pure, Except.pure]

/-- A filter is accepted when it is written in the language that is read, and refused as
unsupported otherwise. Every documented filter is accepted, and those accepted besides are the ones
with a parenthesis in a value. -/
theorem byFilter_accepts_iff :
    ((∃ found, l.byFilter service filter = .ok found) ↔ Filter.IsAccepted filter) ∧
    (l.byFilter service filter = .error (.invalidSpec (.unsupportedFilter filter)) ↔
      ¬Filter.IsAccepted filter) ∧
    (Filter.IsDocumented filter → Filter.IsAccepted filter) ∧
    (Filter.IsAccepted filter ∧ ¬Filter.IsDocumented filter ↔
      ∃ clauses, Filter.parse filter = .ok clauses ∧
        ∃ c ∈ clauses, ∃ ch ∈ c.value.toList, Filter.IsParenthesis ch) := by
  refine ⟨exists_byFilter_iff l service filter, byFilter_eq_error_iff l service filter, ?_, ?_⟩
  · rw [Filter.isDocumented_iff, Filter.isAccepted_iff]
    rintro ⟨clauses, read, _⟩
    exact ⟨clauses, read⟩
  · rw [Filter.isDocumented_iff, Filter.isAccepted_iff]
    constructor
    · rintro ⟨⟨clauses, read⟩, undocumented⟩
      refine ⟨clauses, read, ?_⟩
      by_contra free
      apply undocumented
      refine ⟨clauses, read, fun c mem ch inside parenthesis => ?_⟩
      exact free ⟨c, mem, ch, inside, parenthesis⟩
    · rintro ⟨clauses, read, c, mem, ch, inside, parenthesis⟩
      refine ⟨⟨clauses, read⟩, ?_⟩
      rintro ⟨others, again, plain⟩
      rw [read, Except.ok.injEq] at again
      exact plain c (again ▸ mem) ch inside parenthesis

/-- Two clauses without `&` are read as one, whose value begins in the first and ends in the
second. -/
theorem byFilter_accepts_iff_sequence :
    (∃ found, (StaticLocator.mk ([] : List (ServiceEntry Nat))).byFilter "Greeter" "(a=1)(b=2)" =
      .ok found) ∧ ¬Filter.IsDocumented "(a=1)(b=2)" ∧
      Filter.parse "(a=1)(b=2)" = .ok [⟨"a", "1)(b=2"⟩] := by
  have read : Filter.parse "(a=1)(b=2)" = .ok [⟨"a", "1)(b=2"⟩] := by rfl
  obtain ⟨accepts, _, _, besides⟩ := byFilter_accepts_iff
    (StaticLocator.mk ([] : List (ServiceEntry Nat))) "Greeter" "(a=1)(b=2)"
  obtain ⟨accepted, undocumented⟩ :=
    besides.2 ⟨_, read, _, List.mem_cons_self, ')', by decide, .inr rfl⟩
  exact ⟨accepts.2 accepted, undocumented, read⟩

end StaticLocator
end TreeAdapter
