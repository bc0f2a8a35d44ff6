import Mathlib.Data.List.Induction
import TreeAdapter.Path
import TreeAdapter.Proofs.Text

/-!
# Laws of paths

A path other than the root is a child in exactly one way (`parent?_eq_some_iff`), which gives the
induction from the root down. A `join` with a plain segment leads to that child (`join_plain`).
-/

namespace TreeAdapter
set_option autoImplicit false

namespace Path

/-- A child has one parent and one name. -/
theorem child_inj {p q : Path} {s k : Segment} : p.child s = q.child k ↔ p = q ∧ s = k := by
  cases p
  cases q
  simp [child]

@[simp] theorem parent?_root : root.parent? = none := rfl

@[simp] theorem parent?_child (p : Path) (s : Segment) : (p.child s).parent? = some p := by
  simp [parent?, isRoot, child]

@[simp] theorem name_child (p : Path) (s : Segment) : (p.child s).name = s.val := by
  simp [name, child]

@[simp] theorem isRoot_child (p : Path) (s : Segment) : (p.child s).isRoot = false := by
  simp [isRoot, child]

theorem child_ne_root (p : Path) (s : Segment) : p.child s ≠ root := by
  simp [child, root]

/-- Induction from the root down. -/
@[elab_as_elim]
theorem induction {motive : Path → Prop} (root : motive root)
    (child : ∀ p s, motive p → motive (p.child s)) (p : Path) : motive p := by
  obtain ⟨segments⟩ := p
  induction segments using List.reverseRecOn with
  | nil => exact root
  | append_singleton segments s ih => exact child ⟨segments⟩ s ih

/-- A path below the root is a child. -/
theorem exists_eq_child {p : Path} (below : p ≠ root) : ∃ (q : Path) (s : Segment), p = q.child s := by
  induction p using Path.induction with
  | root => exact absurd rfl below
  | child q s _ => exact ⟨q, s, rfl⟩

/-- A path is the parent of its children and of nothing else. -/
theorem parent?_eq_some_iff {p q : Path} : q.parent? = some p ↔ ∃ s, q = p.child s := by
  constructor
  · intro h
    induction q using Path.induction with
    | root => simp at h
    | child q s _ =>
      rw [parent?_child, Option.some.injEq] at h
      exact ⟨s, by rw [h]⟩
  · rintro ⟨s, rfl⟩
    exact parent?_child p s

theorem isRoot_iff {p : Path} : p.isRoot = true ↔ p = root := by
  cases p
  simp [isRoot, root, List.isEmpty_iff]

/-- Where one path stands seen from another: at it, above it, or neither. -/
theorem place (q p : Path) :
    q = p ∨ (q ≠ p ∧ ∃ k r, p.segments = q.segments ++ k :: r) ∨
      (q ≠ p ∧ ¬q.segments <+: p.segments) := by
  by_cases here : q = p
  · exact .inl here
  · by_cases above : q.segments <+: p.segments
    · obtain ⟨r, split⟩ := above
      cases r with
      | nil => exact absurd (by cases q; cases p; simpa using split) here
      | cons k r => exact .inr (.inl ⟨here, k, r, split.symm⟩)
    · exact .inr (.inr ⟨here, above⟩)

/-- Above or at a child is the child itself, or above or at its parent. -/
theorem prefix_child_iff {q p : Path} {s : Segment} :
    q.segments <+: (p.child s).segments ↔ q = p.child s ∨ q.segments <+: p.segments := by
  cases q
  exact List.prefix_concat_iff.trans (by simp [child])

theorem segments_child_append (p : Path) (s : Segment) (walk : List Segment) :
    (p.child s).segments ++ walk = p.segments ++ s :: walk := by
  rw [child, List.append_assoc, List.singleton_append]

theorem not_child_prefix (p : Path) (s : Segment) : ¬(p.child s).segments <+: p.segments := by
  intro above
  have shorter := above.length_le
  rw [child, List.length_append, List.length_singleton] at shorter
  omega

theorem below_child_ne (p : Path) (s : Segment) (walk : List Segment) :
    (⟨(p.child s).segments ++ walk⟩ : Path) ≠ p := by
  intro same
  exact not_child_prefix p s ⟨walk, congrArg segments same⟩

/-- Below one child there is nothing of another. -/
theorem child_prefix_iff {p : Path} {s k : Segment} {walk : List Segment} :
    (p.child k).segments <+: (p.child s).segments ++ walk ↔ k = s := by
  simp [child, List.prefix_append_right_inj, List.cons_prefix_cons]

theorem written_plain (s : Segment) : written s.val = [s.val] := by
  rw [written, Text.splitOn_of_not_mem s.property.2.1]
  simp

theorem isAbsolute_plain (s : Segment) : isAbsolute s.val = false := by
  have slash := s.property.2.1
  unfold isAbsolute
  cases h : s.val.toList with
  | nil => rfl
  | cons c cs =>
    rw [h] at slash
    simpa using fun eq : c = '/' => slash (eq ▸ List.mem_cons_self)

/-- A plain segment leads to the child of that name. -/
theorem step_plain (p : Path) (s : Segment) : p.step s.val = some (p.child s) := by
  rw [step, if_neg s.property.2.2.2, dif_pos s.property]

/-- A plain segment leads to the child of that name. -/
theorem join_plain (p : Path) (s : Segment) : p.join s.val = some (p.child s) := by
  rw [join, isAbsolute_plain, written_plain]
  simp [walk, step_plain]

/-! ## Trailing separators -/

/-- An empty segment leads nowhere. -/
theorem step_empty (p : Path) : p.step "" = some p := by
  rw [step, if_neg (by decide), dif_neg (by decide)]

/-- An empty segment at the end of a walk leads nowhere else. -/
theorem walk_append_empty (p : Path) (segments : List String) :
    p.walk (segments ++ [""]) = p.walk segments := by
  rw [walk, walk, List.foldlM_append]
  cases List.foldlM step p segments with
  | none => rfl
  | some q => exact (step_empty q)

/-- Separators at the end of a text lead nowhere. -/
theorem walk_written_replicate (p : Path) (cs : List Char) (n : Nat) :
    p.walk ((Text.splitOn '/' (cs ++ List.replicate n '/')).map String.ofList) =
      p.walk ((Text.splitOn '/' cs).map String.ofList) := by
  induction n with
  | zero => rw [List.replicate_zero, List.append_nil]
  | succ n ih =>
    rw [List.replicate_succ', ← List.append_assoc, Text.splitOn_append_cons, List.map_append, ← ih]
    exact walk_append_empty p _

/-- Without the separators at its end a text still tells whether it is absolute; nothing is left
of a text of separators only. -/
theorem isAbsolute_eq {x : String} (hx : x ≠ "") :
    isAbsolute x = ((Text.dropTrailing (· == '/') x.toList).headD '/' == '/') := by
  obtain ⟨n, cut⟩ := Text.exists_dropTrailing '/' x.toList
  unfold isAbsolute
  cases left : Text.dropTrailing (· == '/') x.toList with
  | nil =>
    rw [left, List.nil_append] at cut
    cases n with
    | zero => exact absurd (String.toList_eq_nil_iff.1 cut) hx
    | succ n => rw [cut]; rfl
  | cons c cs =>
    rw [left, List.cons_append] at cut
    rw [cut]
    rfl

/-- Where a text leads to does not depend on the separators at its end. -/
theorem join_congr (p : Path) {x y : String} (hx : x ≠ "") (hy : y ≠ "")
    (same : Text.dropTrailing (· == '/') x.toList = Text.dropTrailing (· == '/') y.toList) :
    p.join x = p.join y := by
  obtain ⟨n, cutX⟩ := Text.exists_dropTrailing '/' x.toList
  obtain ⟨k, cutY⟩ := Text.exists_dropTrailing '/' y.toList
  have absolute : isAbsolute x = isAbsolute y := by rw [isAbsolute_eq hx, isAbsolute_eq hy, same]
  rw [join, join, absolute, written, written, cutX, cutY, walk_written_replicate,
    walk_written_replicate, same]

end Path
end TreeAdapter
