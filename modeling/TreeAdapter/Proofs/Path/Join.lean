import TreeAdapter.Proofs.Path

/-!
# Joining step by step

A `join` walks the segments of a text. Those of two texts with a separator between them are walked
one text after the other, so joining both at once is joining the second onto the first
(`join_append`). A walk climbs above the root where its segments up to some point hold more `..`
than the segments there are to go up (`Climbs`), which `walk_eq_none_iff` shows by induction on the
walk.

* `join_composes` — joining in two steps, joining an absolute text, and when there is no result
-/

namespace TreeAdapter.Path
set_option autoImplicit false

/-- A walk goes on from where its first part leads. -/
theorem walk_append (p : Path) (front back : List String) :
    p.walk (front ++ back) = (p.walk front).bind fun q => q.walk back :=
  List.foldlM_append

@[simp] theorem walk_cons (p : Path) (s : String) (rest : List String) :
    p.walk (s :: rest) = (p.step s).bind fun q => q.walk rest :=
  List.foldlM_cons

/-- The segments of two texts with a separator between them are those of the one, then those of the
other. -/
theorem written_append (x y : String) : written (x ++ "/" ++ y) = written x ++ written y := by
  have pieces := Text.splitOn_append_cons '/' x.toList y.toList
  simp [written, pieces]

/-- What follows a text does not make it absolute or relative. -/
theorem isAbsolute_append {x : String} (named : x ≠ "") (y : String) :
    isAbsolute (x ++ y) = isAbsolute x := by
  unfold isAbsolute
  cases chars : x.toList with
  | nil => exact absurd (String.toList_eq_nil_iff.1 chars) named
  | cons c cs => simp [chars]

/-- A relative text is walked from the base. -/
theorem join_of_relative (p : Path) {x : String} (relative : isAbsolute x = false) :
    p.join x = p.walk (written x) := by
  simp [join, relative]

/-- An absolute text is walked from the root, whatever the base. -/
theorem join_of_absolute (p : Path) {x : String} (absolute : isAbsolute x = true) :
    p.join x = root.walk (written x) := by
  simp [join, absolute]

@[simp] theorem join_empty (p : Path) : p.join "" = some p := by
  have nowhere : p.walk (written "") = p.step "" := by
    change p.walk [""] = p.step ""
    simp [walk]
  rw [join_of_relative p (by decide), nowhere, step_empty]

/-- A text that is walked as `x` and then the relative text `y`, and starts where `x` does, leads
where the two lead one after the other. -/
theorem join_of_walks (p : Path) {x y whole : String} (absolute : isAbsolute whole = isAbsolute x)
    (relative : isAbsolute y = false)
    (walks : ∀ q : Path, q.walk (written whole) =
      (q.walk (written x)).bind fun r => r.walk (written y)) :
    p.join whole = (p.join x).bind fun q => q.join y := by
  have second (q : Path) : q.walk (written y) = q.join y := (join_of_relative q relative).symm
  rw [join, join, absolute, walks]
  simp only [second]

/-- A text with a relative text behind it leads where the two lead one after the other. -/
theorem join_append (p : Path) {x y : String} (named : x ≠ "") (relative : isAbsolute y = false) :
    p.join (x ++ "/" ++ y) = (p.join x).bind fun q => q.join y := by
  have front : isAbsolute (x ++ "/" ++ y) = isAbsolute x := by
    rw [String.append_assoc, isAbsolute_append named]
  refine join_of_walks p front relative fun q => ?_
  rw [written_append, walk_append]

/-! ## Climbing above the root -/

/-- The segments up to some point hold more `..` than there are segments to go up: the `depth`
ones to begin with and the plain ones before that point. -/
def Climbs (depth : Nat) (segments : List String) : Prop :=
  ∃ front, front <+: segments ∧
    depth + front.countP (fun s => decide (IsPlainSegment s)) < front.count ".."

section Climbs
variable {depth : Nat} {s : String} {rest : List String}

theorem not_climbs_nil : ¬Climbs depth [] := by
  rintro ⟨front, whole, more⟩
  rw [List.prefix_nil] at whole
  simp [whole] at more

/-- A walk climbs out when after some segment of it the steps up outnumber the depth and the
names. -/
theorem climbs_cons_iff :
    Climbs depth (s :: rest) ↔ ∃ front, front <+: rest ∧
      depth + (s :: front).countP (fun s => decide (IsPlainSegment s)) < (s :: front).count ".." := by
  constructor
  · rintro ⟨front, whole, more⟩
    rcases List.prefix_cons_iff.1 whole with rfl | ⟨front, rfl, above⟩
    · simp at more
    · exact ⟨front, above, more⟩
  · rintro ⟨front, above, more⟩
    exact ⟨s :: front, List.cons_prefix_cons.2 ⟨rfl, above⟩, more⟩

/-- A first segment shifts the depth when it does so in the counts of every beginning. -/
theorem climbs_cons_of_counts {depth' : Nat}
    (counts : ∀ front : List String,
      depth + (s :: front).countP (fun s => decide (IsPlainSegment s)) < (s :: front).count ".." ↔
        depth' + front.countP (fun s => decide (IsPlainSegment s)) < front.count "..") :
    Climbs depth (s :: rest) ↔ Climbs depth' rest := by
  rw [climbs_cons_iff, Climbs]
  exact exists_congr fun front => and_congr_right fun _ => counts front

theorem not_isPlainSegment_up : ¬IsPlainSegment ".." := by decide

/-- A step up from the root climbs out. -/
theorem climbs_up_of_root : Climbs 0 (".." :: rest) :=
  climbs_cons_iff.2 ⟨[], List.nil_prefix, by decide⟩

/-- A step up makes the depth one less. -/
theorem climbs_up_iff : Climbs (depth + 1) (".." :: rest) ↔ Climbs depth rest := by
  refine climbs_cons_of_counts fun front => ?_
  simp only [List.countP_cons, List.count_cons_self, decide_eq_true_eq,
    if_neg not_isPlainSegment_up]
  omega

/-- A name makes the depth one more. -/
theorem climbs_plain_iff (plain : IsPlainSegment s) :
    Climbs depth (s :: rest) ↔ Climbs (depth + 1) rest := by
  refine climbs_cons_of_counts fun front => ?_
  rw [List.count_cons_of_ne plain.2.2.2]
  simp only [List.countP_cons, decide_eq_true_eq, if_pos plain]
  omega

/-- Any other segment leaves the depth. -/
theorem climbs_stay_iff (up : s ≠ "..") (plain : ¬IsPlainSegment s) :
    Climbs depth (s :: rest) ↔ Climbs depth rest := by
  refine climbs_cons_of_counts fun front => ?_
  rw [List.count_cons_of_ne up]
  simp only [List.countP_cons, decide_eq_true_eq, if_neg plain]
  omega

end Climbs

/-- A walk ends nowhere when it climbs above the root on its way. -/
theorem walk_eq_none_iff (p : Path) (segments : List String) :
    p.walk segments = none ↔ Climbs p.segments.length segments := by
  induction segments generalizing p with
  | nil =>
    have ends : p.walk [] = some p := rfl
    simp [ends, not_climbs_nil]
  | cons s rest ih =>
    by_cases up : s = ".."
    · subst up
      rw [walk_cons, step, if_pos rfl]
      induction p using Path.induction with
      | root =>
        have bottom : root.segments.length = 0 := rfl
        simp [bottom, climbs_up_of_root]
      | child q k _ =>
        rw [parent?_child, Option.bind_some, ih q]
        simpa [child] using climbs_up_iff.symm
    · by_cases plain : IsPlainSegment s
      · rw [walk_cons, step, if_neg up, dif_pos plain, Option.bind_some, ih, climbs_plain_iff plain]
        simp [child]
      · rw [walk_cons, step, if_neg up, dif_neg plain, Option.bind_some, ih,
          climbs_stay_iff up plain]

/-- Joining a text and then a relative one is joining both with a separator between them, with no
result when either step climbs above the root. An absolute text leads to the same place from
everywhere. There is no result exactly when some of the segments, from the first on, hold more
`..` than plain ones and those of the path together; an absolute text leaves those of the path
out. -/
theorem join_composes (b : Path) (x : String) :
    (x ≠ "" → ∀ y, isAbsolute y = false →
      b.join (x ++ "/" ++ y) = (b.join x).bind fun q => q.join y) ∧
    (isAbsolute x = true → ∀ c : Path, c.join x = b.join x) ∧
    (b.join x = none ↔
      Climbs (if isAbsolute x then 0 else b.segments.length) (written x)) := by
  refine ⟨?_, ?_, ?_⟩
  · intro named y relative
    exact join_append b named relative
  · intro absolute c
    rw [join_of_absolute c absolute, join_of_absolute b absolute]
  · cases absolute : isAbsolute x with
    | true =>
      rw [join_of_absolute b absolute, walk_eq_none_iff]
      simp [root]
    | false =>
      rw [join_of_relative b absolute, walk_eq_none_iff]
      simp

/-- From `/a` the text `b//..` leads back to `/a`, and another `../..` above the root. -/
theorem join_composes_above :
    let a : Path := root.child ⟨"a", by decide⟩
    a.join "b//.." = some a ∧ a.join ("b//.." ++ "/" ++ "../..") = none ∧
      a.join ("b//.." ++ "/" ++ "../..") = (a.join "b//..").bind (fun q => q.join "../..") ∧
      root.join "/b/.." = a.join "/b/.." ∧ Climbs 1 (written "../..") := by
  intro a
  refine ⟨by decide +kernel, by decide +kernel, ?_, ?_, ?_⟩
  · exact (join_composes a "b//..").1 (by decide) "../.." (by decide)
  · exact (join_composes a "/b/..").2.1 (by decide) root
  · exact (join_composes a "../..").2.2.1 (by decide +kernel)

end TreeAdapter.Path
