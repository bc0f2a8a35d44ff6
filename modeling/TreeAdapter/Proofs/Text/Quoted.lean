import TreeAdapter.Proofs.Number
import TreeAdapter.Proofs.Text
import TreeAdapter.Text.Quoted

/-!
# Laws of quoted texts

A character is written in one of three ways (`Escaped`), none of which is the beginning of
another, so a quoted text ends where its last quote stands and can be read back, also with other
texts behind it (`quoted_append_inj`).
-/

namespace TreeAdapter.Text
set_option autoImplicit false

/-- The characters that are written as a backslash and another character. -/
def shortEscapes : List (Char × Char) :=
  [('\x00', '0'), ('\t', 't'), ('\n', 'n'), ('\r', 'r'), ('"', '"'), ('\\', '\\')]

/-- The ways to write a character between quotes. -/
inductive Escaped (c : Char) : List Char → Prop where
  | short {letter : Char} (h : (c, letter) ∈ shortEscapes) : Escaped c ['\\', letter]
  | codePoint : Escaped c (codePointEscape c)
  | plain (quote : c ≠ '"') (backslash : c ≠ '\\') : Escaped c [c]

/-- Each character is escaped in one of the three ways. -/
theorem escaped_escapeChar (c : Char) : Escaped c (escapeChar c) := by
  unfold escapeChar
  split
  · next h => exact .short (by simp [shortEscapes, h])
  split
  · next h => exact .short (by simp [shortEscapes, h])
  split
  · next h => exact .short (by simp [shortEscapes, h])
  split
  · next h => exact .short (by simp [shortEscapes, h])
  split
  · next h => exact .short (by simp [shortEscapes, h])
  split
  · next h => exact .short (by simp [shortEscapes, h])
  split
  · exact .codePoint
  · next quote backslash _ => exact .plain quote backslash

/-- A letter behind a backslash stands for one character. -/
theorem short_inj {c d letter : Char} (hc : (c, letter) ∈ shortEscapes)
    (hd : (d, letter) ∈ shortEscapes) : c = d := by
  have table : ∀ p ∈ shortEscapes, ∀ q ∈ shortEscapes, p.2 = q.2 → p.1 = q.1 := by decide
  exact table _ hc _ hd rfl

theorem not_short_codePoint {c : Char} : (c, 'u') ∉ shortEscapes := by
  have table : ∀ p ∈ shortEscapes, p.2 ≠ 'u' := by decide
  exact fun mem => table _ mem rfl

/-- Of two escapes with texts behind them neither is the beginning of the other. -/
theorem Escaped.append_inj {c d : Char} {es fs xs ys : List Char} (hc : Escaped c es)
    (hd : Escaped d fs) (h : es ++ xs = fs ++ ys) : c = d ∧ xs = ys := by
  cases hc with
  | short hc =>
    cases hd with
    | short hd =>
      simp only [List.cons_append, List.nil_append, List.cons.injEq, true_and] at h
      obtain ⟨rfl, rest⟩ := h
      exact ⟨short_inj hc hd, rest⟩
    | codePoint =>
      simp only [codePointEscape, List.cons_append, List.cons.injEq, true_and] at h
      obtain ⟨rfl, _⟩ := h
      exact absurd hc not_short_codePoint
    | plain _ backslash => exact absurd (List.cons.inj h).1.symm backslash
  | codePoint =>
    cases hd with
    | short hd =>
      simp only [codePointEscape, List.cons_append, List.cons.injEq, true_and] at h
      obtain ⟨rfl, _⟩ := h
      exact absurd hd not_short_codePoint
    | codePoint =>
      have brace (n : Nat) : '\x7d' ∉ Nat.toDigits 16 n := by
        intro mem
        obtain ⟨d, small, eq⟩ := Number.exists_digitChar_of_mem (by decide) mem
        have table : ∀ d < 16, '\x7d' ≠ Nat.digitChar d := by decide
        exact table d small eq
      simp only [codePointEscape, List.append_assoc, List.cons_append, List.nil_append,
        List.cons.injEq, true_and] at h
      obtain ⟨digits, rest⟩ := before_inj (brace _) (brace _) h
      have points : c.toNat = d.toNat := Number.toDigits_inj (by decide) (by decide) digits
      exact ⟨Char.toNat_inj.1 points, rest⟩
    | plain _ backslash => exact absurd (List.cons.inj h).1.symm backslash
  | plain _ backslash =>
    cases hd with
    | short => exact absurd (List.cons.inj h).1 backslash
    | codePoint => exact absurd (List.cons.inj h).1 backslash
    | plain => exact List.cons.inj h

/-- No escape begins with a quote, so a quote ends the text. -/
theorem Escaped.head_ne_quote {c : Char} {es xs ys : List Char} (h : Escaped c es) :
    '"' :: xs ≠ es ++ ys := by
  cases h with
  | short => simp
  | codePoint => simp [codePointEscape]
  | plain quote => simp [Ne.symm quote]

/-- The first quote that is not escaped is the end. -/
theorem escapes_append_inj {cs ds xs ys : List Char}
    (h : cs.flatMap escapeChar ++ '"' :: xs = ds.flatMap escapeChar ++ '"' :: ys) :
    cs = ds ∧ xs = ys := by
  induction cs generalizing ds with
  | nil =>
    cases ds with
    | nil => exact ⟨rfl, (List.cons.inj h).2⟩
    | cons d ds =>
      rw [List.flatMap_cons, List.append_assoc] at h
      exact absurd h (escaped_escapeChar d).head_ne_quote
  | cons c cs ih =>
    cases ds with
    | nil =>
      rw [List.flatMap_cons, List.append_assoc] at h
      exact absurd h.symm (escaped_escapeChar c).head_ne_quote
    | cons d ds =>
      rw [List.flatMap_cons, List.flatMap_cons, List.append_assoc, List.append_assoc] at h
      obtain ⟨rfl, rest⟩ := (escaped_escapeChar c).append_inj (escaped_escapeChar d) h
      obtain ⟨rfl, behind⟩ := ih rest
      exact ⟨rfl, behind⟩

/-- A quoted text is its escaped characters between quotes. -/
theorem toList_quoted (s : String) :
    (quoted s).toList = '"' :: s.toList.flatMap escapeChar ++ ['"'] := by
  rw [quoted, String.toList_ofList]

/-- A quoted text can be read back whatever stands behind it. -/
theorem quoted_append_inj {s t : String} {xs ys : List Char}
    (h : (quoted s).toList ++ xs = (quoted t).toList ++ ys) : s = t ∧ xs = ys := by
  rw [toList_quoted, toList_quoted, List.cons_append, List.cons_append, List.append_assoc,
    List.append_assoc, List.cons_append, List.cons_append, List.cons.injEq] at h
  obtain ⟨chars, behind⟩ := escapes_append_inj h.2
  exact ⟨String.toList_inj.1 chars, behind⟩

/-- Two texts that are quoted alike are equal. -/
theorem quoted_inj {s t : String} (h : quoted s = quoted t) : s = t := by
  have same : (quoted s).toList ++ [] = (quoted t).toList ++ [] := by rw [h]
  exact (quoted_append_inj same).1

/-! ## Lists of quoted texts -/

theorem intercalate_cons (sep piece : List Char) (pieces : List (List Char)) :
    sep.intercalate (piece :: pieces) = piece ++ pieces.flatMap (sep ++ ·) := by
  induction pieces generalizing piece with
  | nil => simp
  | cons next rest ih =>
    rw [List.intercalate_cons_cons, ih, List.flatMap_cons]
    simp only [List.append_assoc]

/-- The items behind the first one, each behind a comma. -/
def laterItems (items : List String) : List Char :=
  items.flatMap fun s => [',', ' '] ++ (quoted s).toList

theorem toList_quotedList_nil : (quotedList []).toList = ['[', ']'] := rfl

theorem toList_quotedList_cons (s : String) (items : List String) :
    (quotedList (s :: items)).toList =
      ['['] ++ ((quoted s).toList ++ laterItems items ++ [']']) := by
  have inner := intercalate_cons [',', ' '] (quoted s).toList (items.map fun s => (quoted s).toList)
  simp [quotedList, String.toList_intercalate, Function.comp_def, inner, laterItems,
    List.flatMap_map]

/-- The items behind the first are told apart, each at the quote that ends it. -/
theorem laterItems_inj {items items' : List String} (h : laterItems items = laterItems items') :
    items = items' := by
  induction items generalizing items' with
  | nil =>
    cases items' with
    | nil => rfl
    | cons t rest => simp [laterItems] at h
  | cons s rest ih =>
    cases items' with
    | nil => simp [laterItems] at h
    | cons t rest' =>
      simp only [laterItems, List.flatMap_cons, List.append_assoc, List.append_cancel_left_eq] at h
      obtain ⟨rfl, later⟩ := quoted_append_inj h
      rw [ih later]

theorem quotedList_inj {items items' : List String} (h : quotedList items = quotedList items') :
    items = items' := by
  have same := congrArg String.toList h
  cases items with
  | nil =>
    cases items' with
    | nil => rfl
    | cons t rest => simp [toList_quotedList_nil, toList_quotedList_cons, toList_quoted] at same
  | cons s rest =>
    cases items' with
    | nil => simp [toList_quotedList_nil, toList_quotedList_cons, toList_quoted] at same
    | cons t rest' =>
      rw [toList_quotedList_cons, toList_quotedList_cons, List.append_cancel_left_eq,
        List.append_cancel_right_eq] at same
      obtain ⟨rfl, later⟩ := quoted_append_inj same
      rw [laterItems_inj later]

end TreeAdapter.Text
