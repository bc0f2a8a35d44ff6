import TreeAdapter.Proofs.Tree.Simulation

/-!
# Taking a subtree out

The answers of `remove_node` and what it leaves. On the flat table of the tree the removal calls
itself with the texts of the children; it comes to its end there with the answer that the tree
gives (`Tree.removalAt_iff`).

* `Tree.removeNode_exact` — what is left, what a node that is left still has, and how each text
  that takes nothing out is answered
-/

namespace TreeAdapter
set_option autoImplicit false

namespace Tree

/-! ## What a removal answers -/

section
variable {text : String} {p : Path}

theorem removeNode_of_unreadable (t : Tree) {cause : PathError}
    (read : Path.parse text = .error cause) : t.removeNode text = .error (.invalidPath cause) := by
  simp only [removeNode, parsePath, read]
  rfl

theorem removeNode_of_root (t : Tree) (read : Path.parse text = .ok Path.root) :
    t.removeNode text = .error .cannotRemoveRoot := by
  simp only [removeNode, parsePath, read]
  rfl

theorem removeNode_of_below (t : Tree) (read : Path.parse text = .ok p) (below : p ≠ Path.root) :
    t.removeNode text =
      .ok (if t.contains p then (⟨t.root.remove p.segments⟩, true) else (t, false)) := by
  have top : p.isRoot = false := Bool.eq_false_iff.2 fun h => below (Path.isRoot_iff.1 h)
  simp only [removeNode, parsePath, read, bind, Except.bind, top]
  cases t.contains p <;> rfl

end

theorem call_removeNode (t : Tree) (text : String) :
    t.call (.removeNode text) = ((t.removeNode text).map (·.1)).toOption.getD t := rfl

/-- On the table of a tree the removal comes to its end, and answers what the tree's removal does. -/
theorem removalAt_removeNode (t : Tree) (text : String) :
    t.table.RemovalAt text ((t.removeNode text).map (·.2)) (t.call (.removeNode text)).table := by
  rw [call_removeNode]
  cases read : Path.parse text with
  | error cause =>
    rw [removeNode_of_unreadable t read]
    exact .refused (by simp only [Table.removable, read])
  | ok p =>
    induction p using Path.induction with
    | root =>
      rw [removeNode_of_root t read]
      exact .refused (Table.removable_of_root read)
    | child q s _ =>
      have course := removalAt_remove t read
      rw [removeNode_of_below t read (Path.child_ne_root q s)]
      cases stored : t.contains (q.child s) with
      | false =>
        rw [stored] at course
        exact course
      | true =>
        rw [stored] at course
        exact course

theorem removalAt_iff {t : Tree} {text : String} {answer : Except TreeError Bool} {T : Table} :
    t.table.RemovalAt text answer T ↔
      answer = (t.removeNode text).map (·.2) ∧ T = (t.call (.removeNode text)).table := by
  constructor
  · intro course
    exact course.unique (removalAt_removeNode t text)
  · rintro ⟨rfl, rfl⟩
    exact removalAt_removeNode t text

/-! ## What a removal leaves -/

/-- `u` is `t` without the node at `p` and all below it. -/
structure LosesOnly (t u : Tree) (p : Path) : Prop where
  contains_iff : ∀ q, u.contains q = true ↔ t.contains q = true ∧ ¬p.segments <+: q.segments
  node : ∀ q n, u.node? q = some n → ∃ old, t.node? q = some old ∧
    n.properties = old.properties ∧
    n.childNames =
      if p.parent? = some q then old.childNames.filter (·.val ≠ p.name) else old.childNames

theorem node?_remove (t : Tree) (p q : Path) (s : Segment) :
    (Tree.mk (t.root.remove (p.child s).segments)).node? q =
      if (p.child s).segments <+: q.segments then none
      else if q.segments <+: p.segments then
        (t.node? q).map (Node.remove ((p.child s).segments.drop q.segments.length))
      else t.node? q :=
  Node.find?_remove q.segments p.segments s t.root

/-- Only the parent's list changes in what is left. -/
theorem childNames_remove_place (n : Node) {p q : Path} (s : Segment)
    (above : q.segments <+: p.segments) :
    (Node.remove ((p.child s).segments.drop q.segments.length) n).childNames =
      if p = q then n.childNames.filter (·.val ≠ s.val) else n.childNames := by
  rcases Path.place q p with rfl | ⟨apart, k, r, split⟩ | ⟨_, beside⟩
  · rw [if_pos rfl, Path.child, List.drop_left, Node.childNames_remove_singleton]
    simp [Subtype.ext_iff]
  · rw [if_neg apart.symm, Path.child, split, List.append_assoc, List.drop_left, List.cons_append]
    cases r with
    | nil => exact Node.childNames_remove_cons_cons k s [] n
    | cons l r => exact Node.childNames_remove_cons_cons k l (r ++ [s]) n
  · exact absurd above beside

theorem losesOnly_remove {t : Tree} {p : Path} (s : Segment) :
    LosesOnly t ⟨t.root.remove (p.child s).segments⟩ (p.child s) where
  contains_iff := by
    intro q
    rw [contains, contains, node?_remove]
    by_cases below : (p.child s).segments <+: q.segments
    · simp [below]
    · by_cases above : q.segments <+: p.segments <;> simp [below, above]
  node := by
    intro q n found
    rw [node?_remove] at found
    split at found
    · cases found
    rw [Path.parent?_child, Path.name_child]
    split at found
    · next above =>
      obtain ⟨old, stored, rfl⟩ := Option.map_eq_some_iff.1 found
      refine ⟨old, stored, Node.properties_remove _ old, ?_⟩
      simpa only [Option.some.injEq] using childNames_remove_place old s above
    · next beside =>
      have apart : ¬some p = some q := by
        rintro ⟨rfl⟩
        exact beside List.prefix_rfl
      exact ⟨n, found, rfl, by rw [if_neg apart]⟩

/-- A text that is no path and the root's are refused, a path with no node takes nothing out, and
none of them changes the tree. A path with a node is taken out with all below it: every other node
stays with its properties and its list, but that the parent's loses the name. On the flat table the
removal, which calls itself with the texts of the children, comes to its end with that answer and
that tree. -/
theorem removeNode_exact (t : Tree) (text : String) :
    (∀ cause, Path.parse text = .error cause →
      t.removeNode text = .error (.invalidPath cause) ∧ t.call (.removeNode text) = t) ∧
    (Path.parse text = .ok Path.root →
      t.removeNode text = .error .cannotRemoveRoot ∧ t.call (.removeNode text) = t) ∧
    (∀ p, Path.parse text = .ok p → p ≠ Path.root → t.contains p = false →
      t.removeNode text = .ok (t, false) ∧ t.call (.removeNode text) = t) ∧
    (∀ p, Path.parse text = .ok p → p ≠ Path.root → t.contains p = true →
      ∃ u, t.removeNode text = .ok (u, true) ∧ t.call (.removeNode text) = u ∧ LosesOnly t u p) ∧
    ∀ answer T, t.table.RemovalAt text answer T ↔
      answer = (t.removeNode text).map (·.2) ∧ T = (t.call (.removeNode text)).table := by
  rw [call_removeNode]
  refine ⟨?_, ?_, ?_, ?_, fun answer T => removalAt_iff⟩
  · intro cause read
    rw [removeNode_of_unreadable t read]
    exact ⟨rfl, rfl⟩
  · intro read
    rw [removeNode_of_root t read]
    exact ⟨rfl, rfl⟩
  · intro p read below missing
    rw [removeNode_of_below t read below, missing]
    exact ⟨rfl, rfl⟩
  · intro p read below stored
    rw [removeNode_of_below t read below, stored]
    refine ⟨_, rfl, rfl, ?_⟩
    obtain ⟨q, s, rfl⟩ := Path.exists_eq_child below
    exact losesOnly_remove s

/-- Below `/a` there are `b` with a node of its own, and two whose names only look alike. -/
def siblingsDocument : Json :=
  .object [("a", .object [("b", .object [("c", .object [("x", .integer 1)])]), ("bb", .object []),
    ("c", .object [("x", .integer 2)])])]

theorem removeNode_exact_siblings :
    ∃ t u, start (some siblingsDocument) = .ok t ∧ t.removeNode "/a/./b" = .ok (u, true) ∧
      LosesOnly t u ((Path.root.child ⟨"a", by decide⟩).child ⟨"b", by decide⟩) ∧
      (u.childPaths (Path.root.child ⟨"a", by decide⟩)).map Path.text = ["/a/bb", "/a/c"] := by
  let a : Path := Path.root.child ⟨"a", by decide⟩
  let b : Path := a.child ⟨"b", by decide⟩
  have outcome : (start (some siblingsDocument)).toOption.map (fun t =>
      (t.contains b, ((t.call (.removeNode "/a/./b")).childPaths a).map Path.text)) =
        some (true, ["/a/bb", "/a/c"]) := by
    decide +kernel
  have read : Path.parse "/a/./b" = .ok b := by decide +kernel
  cases started : start (some siblingsDocument) with
  | error e => simp [started, Except.toOption] at outcome
  | ok t =>
    simp only [started, Except.toOption, Option.map_some, Option.some.injEq, Prod.mk.injEq] at outcome
    obtain ⟨_, _, _, taken, _⟩ := removeNode_exact t "/a/./b"
    obtain ⟨u, answer, called, lost⟩ := taken b read (by decide) outcome.1
    exact ⟨t, u, rfl, answer, lost, called ▸ outcome.2⟩

end Tree
end TreeAdapter
