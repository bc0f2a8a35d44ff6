import TreeAdapter.Proofs.Tree.Coherence
import TreeAdapter.Proofs.Tree.Removal

/-!
# Putting a path in

What `insert_node` puts in is the missing end of a path (`Tree.exists_deepest`): the node where it
begins gets one more name, each new node has the next one as its only child, and nothing else
changes.

* `Tree.insertNode_exact` — the tree with a path put in, once or again, and after the path was taken
  out
-/

namespace TreeAdapter
set_option autoImplicit false

namespace Tree

/-- `u` is `t` with the nodes that were missing on the way to `p`, and no others. -/
structure GainsOnly (t u : Tree) (p : Path) : Prop where
  contains_iff : ∀ q, u.contains q = true ↔ t.contains q = true ∨ q.segments <+: p.segments
  properties : ∀ q old n, t.node? q = some old → u.node? q = some n → n.properties = old.properties
  /-- A new node has nothing but the next segment on the way. -/
  fresh : ∀ q n, t.contains q = false → u.node? q = some n →
    n.properties = NameMap.empty ∧ n.childNames = (p.segments.drop q.segments.length).take 1
  whole : t.contains p = true → u = t
  /-- The last node on the way that was there gets one more name, and no other old node does. -/
  grown : t.contains p = false → ∃ a s rest, p.segments = a.segments ++ s :: rest ∧
    (∀ q, q.segments <+: p.segments → (t.contains q = true ↔ q.segments <+: a.segments)) ∧
    ∀ q old n, t.node? q = some old → u.node? q = some n →
      n.childNames = if q = a then old.childNames ++ [s] else old.childNames

/-! ## Where the missing end begins -/

theorem contains_of_above {t : Tree} {p q : Path} (above : q.segments <+: p.segments)
    (stored : t.contains p = true) : t.contains q = true := by
  induction p using Path.induction with
  | root =>
    have top : q = Path.root := by
      cases q
      exact congrArg Path.mk (List.prefix_nil.1 above)
    exact top ▸ stored
  | child p s ih =>
    rcases Path.prefix_child_iff.1 above with rfl | higher
    · exact stored
    · exact ih higher (contains_of_contains_child stored)

theorem exists_deepest {t : Tree} {p : Path} (missing : t.contains p = false) :
    ∃ (a : Path) (s : Segment) (rest : List Segment), p.segments = a.segments ++ s :: rest ∧
      t.contains a = true ∧ t.contains (a.child s) = false := by
  induction p using Path.induction with
  | root => simp [contains_root] at missing
  | child p k ih =>
    cases stored : t.contains p with
    | true => exact ⟨p, k, [], rfl, stored, missing⟩
    | false =>
      obtain ⟨a, s, rest, split, last, first⟩ := ih stored
      refine ⟨a, s, rest ++ [k], ?_, last, first⟩
      rw [Path.child, split, List.append_assoc, List.cons_append]

/-- The nodes on the way that are there are those up to the last one. -/
theorem contains_iff_above {t : Tree} {p a q : Path} {s : Segment} {rest : List Segment}
    (split : p.segments = a.segments ++ s :: rest) (last : t.contains a = true)
    (first : t.contains (a.child s) = false) (above : q.segments <+: p.segments) :
    t.contains q = true ↔ q.segments <+: a.segments := by
  constructor
  · intro stored
    have onWay : (a.child s).segments <+: p.segments := ⟨rest, by rw [split, Path.child]; simp⟩
    rcases List.prefix_or_prefix_of_prefix above onWay with higher | lower
    · rcases Path.prefix_child_iff.1 higher with rfl | higher
      · simp [first] at stored
      · exact higher
    · simp [contains_of_above lower stored] at first
  · intro higher
    exact contains_of_above higher last

/-! ## What is put in -/

theorem contains_ensure_iff {t : Tree} {p q : Path} :
    (t.ensure p).contains q = true ↔ t.contains q = true ∨ q.segments <+: p.segments := by
  rw [contains, contains, node?_ensure]
  by_cases above : q.segments <+: p.segments <;> simp [above]

/-- On the way to `p` a node has what it had, or nothing if it is new, and the missing rest. -/
theorem node?_ensure_of_above {t : Tree} {p q : Path} (above : q.segments <+: p.segments) :
    (t.ensure p).node? q = some
      (Node.ensure (p.segments.drop q.segments.length) ((t.node? q).getD Node.empty)) := by
  rw [node?_ensure, if_pos above]

theorem childNames_ensure_empty (walk : List Segment) :
    (Node.ensure walk Node.empty).childNames = walk.take 1 := by
  cases walk with
  | nil => rfl
  | cons s rest => rfl

/-- What is on the way already is not named again. -/
theorem childNames_ensure_of_contains {t : Tree} {q : Path} {s : Segment} {n : Node}
    (found : t.node? q = some n) (stored : t.contains (q.child s) = true) (rest : List Segment) :
    (Node.ensure (s :: rest) n).childNames = n.childNames := by
  rw [Node.childNames_ensure_cons, if_pos ((mem_childNames_iff found s).2 stored)]

theorem childNames_ensure_of_missing {t : Tree} {q : Path} {s : Segment} {n : Node}
    (found : t.node? q = some n) (missing : t.contains (q.child s) = false) (rest : List Segment) :
    (Node.ensure (s :: rest) n).childNames = n.childNames ++ [s] := by
  have unlisted : s ∉ n.childNames := by
    rw [mem_childNames_iff found, missing]
    exact Bool.false_ne_true
  rw [Node.childNames_ensure_cons, if_neg unlisted]

theorem node?_eq_none_of_not_contains {t : Tree} {q : Path} (missing : t.contains q = false) :
    t.node? q = none := by
  rw [← Option.not_isSome_iff_eq_none]
  exact Bool.eq_false_iff.1 missing

/-- The lists of the old nodes: one gets the first missing segment. -/
theorem childNames_ensure_grown {t : Tree} {p a q : Path} {s : Segment} {rest : List Segment}
    {old n : Node} (split : p.segments = a.segments ++ s :: rest)
    (first : t.contains (a.child s) = false)
    (onWay : q.segments <+: p.segments → q.segments <+: a.segments) (last : t.contains a = true)
    (found : t.node? q = some old) (grown : (t.ensure p).node? q = some n) :
    n.childNames = if q = a then old.childNames ++ [s] else old.childNames := by
  by_cases above : q.segments <+: p.segments
  · rw [node?_ensure_of_above above, found, Option.getD_some, Option.some.injEq] at grown
    subst grown
    -- the next segment is missing at `a`, and above it the way is there already
    rcases Path.place q a with rfl | ⟨apart, k, r, higher⟩ | ⟨_, beside⟩
    · rw [if_pos rfl, split, List.drop_left, childNames_ensure_of_missing found first]
    · have next : (q.child k).segments <+: a.segments := ⟨r, by rw [higher, Path.child]; simp⟩
      have stored : t.contains (q.child k) = true := contains_of_above next last
      rw [if_neg apart, split, higher, List.append_assoc, List.drop_left, List.cons_append,
        childNames_ensure_of_contains found stored]
    · exact absurd (onWay above) beside
  · have apart : q ≠ a := by
      rintro rfl
      exact above ⟨s :: rest, split.symm⟩
    rw [node?_ensure, if_neg above, found, Option.some.injEq] at grown
    rw [if_neg apart, grown]

theorem gainsOnly_ensure (t : Tree) (p : Path) : GainsOnly t (t.ensure p) p where
  contains_iff _ := contains_ensure_iff
  properties := by
    intro q old n found grown
    rw [node?_ensure, found] at grown
    split at grown
    · cases grown
      exact Node.properties_ensure _ old
    · cases grown
      rfl
  fresh := by
    intro q n missing found
    have absent := node?_eq_none_of_not_contains missing
    rw [node?_ensure, absent] at found
    split at found
    · cases found
      exact ⟨Node.properties_ensure _ Node.empty, childNames_ensure_empty _⟩
    · cases found
  whole := ensure_eq_self
  grown := by
    intro missing
    obtain ⟨a, s, rest, split, last, first⟩ := exists_deepest missing
    have onWay (q : Path) (above : q.segments <+: p.segments) :
        t.contains q = true ↔ q.segments <+: a.segments :=
      contains_iff_above split last first above
    refine ⟨a, s, rest, split, onWay, fun q old n found grown => ?_⟩
    have stored : t.contains q = true := by rw [contains, found]; rfl
    exact childNames_ensure_grown split first (fun above => (onWay q above).1 stored) last found grown

/-! ## The calls -/

theorem insertNode_of_unreadable (t : Tree) {text : String} {cause : PathError}
    (read : Path.parse text = .error cause) : t.insertNode text = .error (.invalidPath cause) := by
  simp only [insertNode, parsePath, read]
  rfl

theorem insertNode_of_path (t : Tree) {text : String} {p : Path} (read : Path.parse text = .ok p) :
    t.insertNode text = .ok (t.ensure p) := by
  simp only [insertNode, parsePath, read]
  rfl

/-- Put in again after it was taken out, a path has an empty node, the last of its parent's. -/
theorem ensure_of_losesOnly {t u : Tree} {p : Path} {s : Segment}
    (stored : t.contains (p.child s) = true) (lost : LosesOnly t u (p.child s)) :
    (u.ensure (p.child s)).node? (p.child s) = some Node.empty ∧
      (u.ensure (p.child s)).childPaths p =
        (t.childPaths p).filter (· ≠ p.child s) ++ [p.child s] := by
  have gone : u.contains (p.child s) = false := by
    rw [← Bool.not_eq_true, lost.contains_iff]
    exact fun h => h.2 List.prefix_rfl
  have above : u.contains p = true :=
    (lost.contains_iff p).2 ⟨contains_of_contains_child stored, Path.not_child_prefix p s⟩
  obtain ⟨m, left⟩ := Option.isSome_iff_exists.1 above
  obtain ⟨old, found, _, names⟩ := lost.node p m left
  rw [Path.parent?_child, if_pos rfl, Path.name_child] at names
  constructor
  · rw [node?_ensure_of_above List.prefix_rfl, node?_eq_none_of_not_contains gone,
      List.drop_length]
    rfl
  · have grown : (u.ensure (p.child s)).node? p = some (Node.ensure [s] m) := by
      rw [node?_ensure_of_above (Path.prefix_child_iff.2 (.inr List.prefix_rfl)), left, Path.child,
        List.drop_left]
      rfl
    have siblings : (fun k : Segment => decide (p.child k ≠ p.child s)) =
        fun k => decide (k.val ≠ s.val) := by
      funext k
      simp [Path.child_inj, Subtype.ext_iff]
    rw [childPaths, childPaths, grown, found]
    simp only [childNames_ensure_of_missing left gone, names, List.map_append, List.filter_map,
      Function.comp_def, siblings]
    rfl

/-- A text that is no path changes nothing. For a path, what was missing on the way to it is there
afterwards and nothing else is different; a second time nothing changes. The flat table puts in the
same, parents first. A path that was taken out before has an empty node then, the last of its
parent's. -/
theorem insertNode_exact (t : Tree) (text : String) :
    (∀ cause, Path.parse text = .error cause →
      t.insertNode text = .error (.invalidPath cause) ∧ t.call (.insertNode text) = t) ∧
    ∀ p, Path.parse text = .ok p →
      ∃ u, t.insertNode text = .ok u ∧ GainsOnly t u p ∧ u.insertNode text = .ok u ∧
        u.table = t.table.ensure p ∧
        ∀ v, t.removeNode text = .ok (v, true) → ∃ w, v.insertNode text = .ok w ∧
          w.node? p = some Node.empty ∧
          ∀ q, p.parent? = some q → w.childPaths q = (t.childPaths q).filter (· ≠ p) ++ [p] := by
  constructor
  · intro cause read
    have refused := insertNode_of_unreadable t read
    exact ⟨refused, by rw [call, refused]; rfl⟩
  intro p read
  have there : (t.ensure p).contains p = true := contains_ensure_iff.2 (.inr List.prefix_rfl)
  have again : (t.ensure p).insertNode text = .ok (t.ensure p) := by
    rw [insertNode_of_path _ read, ensure_eq_self there]
  refine ⟨t.ensure p, insertNode_of_path t read, gainsOnly_ensure t p, again, table_ensure t p, ?_⟩
  intro v taken
  refine ⟨v.ensure p, insertNode_of_path v read, ?_⟩
  induction p using Path.induction with
  | root => simp [removeNode_of_root t read] at taken
  | child q s _ =>
    rw [removeNode_of_below t read (Path.child_ne_root q s)] at taken
    split at taken
    · next stored =>
      cases taken
      obtain ⟨empty, last⟩ := ensure_of_losesOnly stored (losesOnly_remove s)
      refine ⟨empty, fun parent above => ?_⟩
      rw [Path.parent?_child, Option.some.injEq] at above
      exact above ▸ last
    · cases taken

/-- `/a/b` goes from the middle of its siblings to the end, and loses what it had. -/
theorem insertNode_exact_siblings :
    ∃ t v w, start (some siblingsDocument) = .ok t ∧ t.removeNode "/a/b" = .ok (v, true) ∧
      v.insertNode "/a/b" = .ok w ∧
      w.node? ((Path.root.child ⟨"a", by decide⟩).child ⟨"b", by decide⟩) = some Node.empty ∧
      (w.childPaths (Path.root.child ⟨"a", by decide⟩)).map Path.text = ["/a/bb", "/a/c", "/a/b"] := by
  let a : Path := Path.root.child ⟨"a", by decide⟩
  let b : Path := a.child ⟨"b", by decide⟩
  have outcome : (start (some siblingsDocument)).toOption.map (fun t =>
      (t.contains b, (t.childPaths a).filter (· ≠ b) ++ [b])) =
        some (true, [a.child ⟨"bb", by decide⟩, a.child ⟨"c", by decide⟩, b]) := by
    decide +kernel
  have read : Path.parse "/a/b" = .ok b := by decide +kernel
  cases started : start (some siblingsDocument) with
  | error e => simp [started, Except.toOption] at outcome
  | ok t =>
    simp only [started, Except.toOption, Option.map_some, Option.some.injEq, Prod.mk.injEq] at outcome
    have taken := removeNode_of_below t read (by decide)
    rw [outcome.1, if_pos rfl] at taken
    obtain ⟨_, _, _, _, _, back⟩ := (insertNode_exact t "/a/b").2 b read
    obtain ⟨w, answer, empty, last⟩ := back _ taken
    have children := last a (Path.parent?_child a _)
    refine ⟨t, _, w, rfl, taken, answer, empty, ?_⟩
    rw [children, outcome.2]
    decide

end Tree
end TreeAdapter
