import TreeAdapter.Text.Blank
import TreeAdapter.Text.Split

/-!
# Laws of texts

Texts are trimmed, split into pieces and cut at a separator. What trimming leaves has no white
space at its ends (`isTrimmed_trimChars`) and is all there is of a text without any. A separator
that one side of a cut does not hold gives both sides back (`behind_inj`, `before_inj`).
-/

namespace TreeAdapter.Text
set_option autoImplicit false

/-! ## Separators -/

theorem splitOn_of_not_mem {sep : Char} {cs : List Char} (h : sep ∉ cs) :
    splitOn sep cs = [cs] := by
  induction cs with
  | nil => rfl
  | cons c cs ih =>
    rw [List.mem_cons, not_or] at h
    rw [splitOn, if_neg (Ne.symm h.1), ih h.2]

/-- The pieces of a text up to a separator and of the text behind it, one after the other. -/
theorem splitOn_append_cons (sep : Char) (cs ds : List Char) :
    splitOn sep (cs ++ sep :: ds) = splitOn sep cs ++ splitOn sep ds := by
  induction cs with
  | nil => simp [splitOn]
  | cons c cs ih =>
    rw [List.cons_append, splitOn, splitOn, ih]
    by_cases here : c = sep
    · rw [if_pos here, if_pos here, List.cons_append]
    · rw [if_neg here, if_neg here]
      cases pieces : splitOn sep cs with
      | nil => exact absurd pieces (splitOn_ne_nil sep cs)
      | cons piece rest => rfl

/-- No piece holds the separator. -/
theorem not_mem_of_mem_splitOn {sep : Char} {cs piece : List Char} (h : piece ∈ splitOn sep cs) :
    sep ∉ piece := by
  induction cs generalizing piece with
  | nil =>
    rw [splitOn, List.mem_singleton] at h
    simp [h]
  | cons c cs ih =>
    rw [splitOn] at h
    by_cases here : c = sep
    · rw [if_pos here, List.mem_cons] at h
      rcases h with rfl | later
      · exact List.not_mem_nil
      · exact ih later
    · rw [if_neg here] at h
      cases pieces : splitOn sep cs with
      | nil => exact absurd pieces (splitOn_ne_nil sep cs)
      | cons first rest =>
        rw [pieces] at h ih
        rcases List.mem_cons.1 h with rfl | later
        · rw [List.mem_cons, not_or]
          exact ⟨Ne.symm here, ih List.mem_cons_self⟩
        · exact ih (List.mem_cons_of_mem first later)

theorem cutLast_eq_none {sep : Char} {cs : List Char} (h : cutLast sep cs = none) :
    sep ∉ cs := by
  induction cs with
  | nil => exact List.not_mem_nil
  | cons c cs ih =>
    rw [cutLast] at h
    cases tail : cutLast sep cs with
    | some p => simp [tail] at h
    | none =>
      simp only [tail] at h
      split at h
      · cases h
      · next apart =>
        rw [List.mem_cons, not_or]
        exact ⟨Ne.symm apart, ih tail⟩

/-- A text is cut at its last separator. -/
theorem cutLast_eq_some {sep : Char} {cs before after : List Char}
    (h : cutLast sep cs = some (before, after)) :
    cs = before ++ sep :: after ∧ sep ∉ after := by
  induction cs generalizing before with
  | nil => cases h
  | cons c cs ih =>
    rw [cutLast] at h
    cases tail : cutLast sep cs with
    | some p =>
      obtain ⟨front, back⟩ := p
      simp only [tail, Option.some.injEq, Prod.mk.injEq] at h
      obtain ⟨rfl, rfl⟩ := h
      obtain ⟨whole, leaf⟩ := ih tail
      exact ⟨by rw [whole, List.cons_append], leaf⟩
    | none =>
      simp only [tail] at h
      split at h
      · next here =>
        simp only [Option.some.injEq, Prod.mk.injEq] at h
        obtain ⟨rfl, rfl⟩ := h
        exact ⟨by rw [here, List.nil_append], cutLast_eq_none tail⟩
      · cases h

/-- What has no separator in front of one is what is cut off at the first. -/
theorem cutFirst_append {sep : Char} {before : List Char} (h : sep ∉ before) (after : List Char) :
    cutFirst sep (before ++ sep :: after) = some (before, after) := by
  induction before with
  | nil => simp [cutFirst]
  | cons c before ih =>
    rw [List.mem_cons, not_or] at h
    rw [List.cons_append, cutFirst, if_neg (Ne.symm h.1), ih h.2]
    rfl

/-- What stands behind the last separator tells two texts apart. -/
theorem behind_inj {sep : Char} {xs ys as bs : List Char} (ha : sep ∉ as) (hb : sep ∉ bs)
    (h : xs ++ sep :: as = ys ++ sep :: bs) : xs = ys ∧ as = bs := by
  induction xs generalizing ys with
  | nil =>
    cases ys with
    | nil =>
      rw [List.nil_append, List.nil_append, List.cons.injEq] at h
      exact ⟨rfl, h.2⟩
    | cons y ys =>
      rw [List.nil_append, List.cons_append, List.cons.injEq] at h
      rw [h.2] at ha
      simp at ha
  | cons x xs ih =>
    cases ys with
    | nil =>
      rw [List.nil_append, List.cons_append, List.cons.injEq] at h
      rw [← h.2] at hb
      simp at hb
    | cons y ys =>
      rw [List.cons_append, List.cons_append, List.cons.injEq] at h
      obtain ⟨rfl, tail⟩ := ih h.2
      rw [h.1]
      exact ⟨rfl, tail⟩

/-- What has no separator behind one is what is cut off at the last. -/
theorem cutLast_append {sep : Char} {after : List Char} (h : sep ∉ after) (before : List Char) :
    cutLast sep (before ++ sep :: after) = some (before, after) := by
  cases cut : cutLast sep (before ++ sep :: after) with
  | none =>
    have uncut := cutLast_eq_none cut
    simp at uncut
  | some parts =>
    obtain ⟨front, last⟩ := parts
    obtain ⟨whole, plain⟩ := cutLast_eq_some cut
    obtain ⟨rfl, rfl⟩ := behind_inj plain h whole.symm
    rfl

/-- What stands before the first separator tells two texts apart. -/
theorem before_inj {sep : Char} {xs ys as bs : List Char} (hx : sep ∉ xs) (hy : sep ∉ ys)
    (h : xs ++ sep :: as = ys ++ sep :: bs) : xs = ys ∧ as = bs := by
  have mirrored : as.reverse ++ sep :: xs.reverse = bs.reverse ++ sep :: ys.reverse := by
    simpa using congrArg List.reverse h
  have both := behind_inj (by simpa using hx) (by simpa using hy) mirrored
  simpa [and_comm] using both

/-! ## White space at the ends -/

/-- What trailing characters leave, and how many of them there are. -/
theorem exists_dropTrailing (c : Char) (cs : List Char) :
    ∃ n, cs = dropTrailing (· == c) cs ++ List.replicate n c := by
  have run : cs.reverse.takeWhile (· == c) =
      List.replicate (cs.reverse.takeWhile (· == c)).length c := by
    refine List.eq_replicate_of_mem fun b mem => ?_
    simpa using List.all_eq_true.1 List.all_takeWhile b mem
  refine ⟨(cs.reverse.takeWhile (· == c)).length, ?_⟩
  have whole : cs.reverse.takeWhile (· == c) ++ cs.reverse.dropWhile (· == c) = cs.reverse :=
    List.takeWhile_append_dropWhile
  rw [← List.reverse_inj, List.reverse_append, List.reverse_reverse, run,
    List.reverse_replicate] at whole
  exact whole.symm

/-- No white space at either end. -/
structure IsTrimmed (cs : List Char) : Prop where
  front : ∀ c ∈ cs.head?, isBlank c = false
  back : ∀ c ∈ cs.getLast?, isBlank c = false

/-- A text is trimmed when neither its first nor its last character is white space, which can be
decided. -/
theorem isTrimmed_iff {cs : List Char} : IsTrimmed cs ↔
    cs.head?.all (!isBlank ·) = true ∧ cs.getLast?.all (!isBlank ·) = true := by
  simp only [Option.all_eq_true, Bool.not_eq_true']
  exact ⟨fun ⟨front, back⟩ => ⟨front, back⟩, fun ⟨front, back⟩ => ⟨front, back⟩⟩

instance (cs : List Char) : Decidable (IsTrimmed cs) :=
  decidable_of_iff _ isTrimmed_iff.symm

theorem head?_dropWhile_isBlank {cs : List Char} {c : Char}
    (h : c ∈ (cs.dropWhile isBlank).head?) : isBlank c = false := by
  have solid := List.head?_dropWhile_not isBlank cs
  rw [Option.mem_def.1 h] at solid
  exact solid

/-- Trimming leaves a trimmed text. -/
theorem isTrimmed_trimChars (cs : List Char) : IsTrimmed (trimChars cs) where
  front := by
    intro c mem
    have cut : trimChars cs <+: cs.dropWhile isBlank := by
      rw [trimChars, dropTrailing, ← List.reverse_suffix, List.reverse_reverse]
      exact List.dropWhile_suffix _
    obtain ⟨rest, whole⟩ := cut
    have first : c ∈ (cs.dropWhile isBlank).head? := by
      rw [← whole, List.head?_append, Option.mem_def.1 mem]
      rfl
    exact head?_dropWhile_isBlank first
  back := by
    intro c mem
    rw [trimChars, dropTrailing, List.getLast?_reverse] at mem
    exact head?_dropWhile_isBlank mem

theorem dropWhile_isBlank_of_head? {cs : List Char} (h : ∀ c ∈ cs.head?, isBlank c = false) :
    cs.dropWhile isBlank = cs := by
  cases cs with
  | nil => rfl
  | cons c rest => simp [h c rfl]

/-- Trimming takes nothing from a text without white space at its ends. -/
theorem IsTrimmed.trimChars_eq {cs : List Char} (h : IsTrimmed cs) : trimChars cs = cs := by
  have back : cs.reverse.dropWhile isBlank = cs.reverse := by
    apply dropWhile_isBlank_of_head?
    simpa using h.back
  rw [trimChars, dropWhile_isBlank_of_head? h.front, dropTrailing, back, List.reverse_reverse]

/-- White space around a trimmed text does not count. -/
theorem IsTrimmed.trimChars_append {core : List Char} (h : IsTrimmed core) {front back : List Char}
    (before : front.all isBlank = true) (behind : back.all isBlank = true) :
    trimChars (front ++ core ++ back) = core := by
  have start : (front ++ (core ++ back)).dropWhile isBlank = (core ++ back).dropWhile isBlank :=
    List.dropWhile_append_of_pos (List.all_eq_true.1 before)
  rw [List.append_assoc, trimChars, start]
  cases core with
  | nil =>
    have rest : (back ++ []).dropWhile isBlank = ([] : List Char).dropWhile isBlank :=
      List.dropWhile_append_of_pos (List.all_eq_true.1 behind)
    rw [List.nil_append, ← List.append_nil back, rest]
    rfl
  | cons c core =>
    have solid : (c :: core ++ back).dropWhile isBlank = c :: core ++ back :=
      dropWhile_isBlank_of_head? h.front
    have last : (c :: core).reverse.dropWhile isBlank = (c :: core).reverse := by
      apply dropWhile_isBlank_of_head?
      rw [List.head?_reverse]
      exact h.back
    have blank : ∀ b ∈ back.reverse, isBlank b = true := by
      intro b mem
      exact List.all_eq_true.1 behind b (List.mem_reverse.1 mem)
    rw [solid, dropTrailing, List.reverse_append, List.dropWhile_append_of_pos blank, last,
      List.reverse_reverse]

/-- What trimming takes is white space. -/
theorem exists_trimChars (cs : List Char) :
    ∃ front back, cs = front ++ trimChars cs ++ back ∧ front.all isBlank = true ∧
      back.all isBlank = true := by
  refine ⟨cs.takeWhile isBlank, ((cs.dropWhile isBlank).reverse.takeWhile isBlank).reverse,
    ?_, List.all_takeWhile, ?_⟩
  · rw [trimChars, dropTrailing, List.append_assoc, ← List.reverse_append,
      List.takeWhile_append_dropWhile, List.reverse_reverse, List.takeWhile_append_dropWhile]
  · rw [List.all_reverse]
    exact List.all_takeWhile

/-- A text that is not blank is not empty after trimming. -/
theorem trim_ne_empty {s : String} (h : isBlankText s = false) : trim s ≠ "" := by
  intro empty
  have nothing : trimChars s.toList = [] := by simpa [trim] using congrArg String.toList empty
  obtain ⟨front, back, whole, before, behind⟩ := exists_trimChars s.toList
  rw [nothing, List.append_nil] at whole
  rw [isBlankText, whole, List.all_append, before, behind] at h
  cases h

/-- Trimming takes away nothing but white space. -/
theorem mem_trimChars_or_isBlank {cs : List Char} {c : Char} (h : c ∈ cs) :
    c ∈ trimChars cs ∨ isBlank c = true := by
  obtain ⟨front, back, whole, before, behind⟩ := exists_trimChars cs
  rw [whole, List.mem_append, List.mem_append] at h
  rcases h with (first | inside) | last
  · exact .inr (List.all_eq_true.1 before c first)
  · exact .inl inside
  · exact .inr (List.all_eq_true.1 behind c last)

theorem mem_of_mem_trimChars {cs : List Char} {c : Char} (h : c ∈ trimChars cs) : c ∈ cs := by
  obtain ⟨front, back, whole, _⟩ := exists_trimChars cs
  rw [whole]
  exact List.mem_append_left back (List.mem_append_right front h)

/-- A text that begins with a trimmed one and ends with no white space is trimmed. -/
theorem IsTrimmed.append {front : List Char} (h : IsTrimmed front) (nonempty : front ≠ [])
    (middle : List Char) {last : Char} (solid : isBlank last = false) :
    IsTrimmed (front ++ middle ++ [last]) where
  front := by
    cases front with
    | nil => exact absurd rfl nonempty
    | cons c rest => exact h.front
  back := by simpa using solid

end TreeAdapter.Text
