import TreeAdapter.Tree.Node

/-!
# Laws of nodes

What `ensure_node`, `set_property` and `remove_node` do to the nodes that walks lead to:
`find?_ensure`, `find?_mapProperties` and `find?_remove` compare the walk with the walk of the
update. Above the place of the update a node keeps its properties, and its child names change at one
level only.
-/

namespace TreeAdapter.Node
set_option autoImplicit false

/-! ## One level -/

/-- The first child of a name is the one found. -/
theorem child?_mk_cons (ps : Properties) (k s : Segment) (m : Node) (rest : List (Segment × Node)) :
    (mk ps ((k, m) :: rest)).child? s = if k = s then some m else (mk ps rest).child? s := by
  by_cases h : k = s <;> simp [child?, children, h]

@[simp] theorem child?_nil (ps : Properties) (s : Segment) : (mk ps []).child? s = none := rfl

@[simp] theorem child?_empty (s : Segment) : empty.child? s = none := rfl

/-- A child is found under the names that are listed. -/
theorem isSome_child? (n : Node) (s : Segment) : (n.child? s).isSome = true ↔ s ∈ n.childNames := by
  simp [child?, childNames]

/-- Updating a child changes it, or makes it from an empty node, and changes no other. -/
theorem child?_updateChild (ps : Properties) (s k : Segment) (f : Node → Node)
    (cs : List (Segment × Node)) :
    (mk ps (updateChild s f cs)).child? k =
      if s = k then some (f (((mk ps cs).child? k).getD empty)) else (mk ps cs).child? k := by
  induction cs with
  | nil => rw [updateChild, child?_mk_cons]; rfl
  | cons c rest ih =>
    obtain ⟨name, m⟩ := c
    rw [updateChild]
    split
    · next eq =>
      subst eq
      rw [child?_mk_cons, child?_mk_cons]
      split <;> simp
    · next ne =>
      rw [child?_mk_cons, child?_mk_cons, ih]
      by_cases here : name = k
      · simp [here, show s ≠ k from fun eq => ne (here.trans eq.symm)]
      · simp [here]

/-- Mapping a child changes it if it is there, and no other. -/
theorem child?_mapChild (ps : Properties) (s k : Segment) (f : Node → Node)
    (cs : List (Segment × Node)) :
    (mk ps (mapChild s f cs)).child? k =
      if s = k then ((mk ps cs).child? k).map f else (mk ps cs).child? k := by
  induction cs with
  | nil => simp [mapChild]
  | cons c rest ih =>
    obtain ⟨name, m⟩ := c
    have unfolded : mapChild s f ((name, m) :: rest) =
        (name, if name = s then f m else m) :: mapChild s f rest := by
      by_cases h : name = s <;> simp [mapChild, h]
    rw [unfolded, child?_mk_cons, child?_mk_cons, ih]
    by_cases here : name = k
    · subst here
      by_cases h : name = s
      · simp [h]
      · simp [h, Ne.symm h]
    · simp [here]

theorem child?_filter (ps : Properties) (s k : Segment) (cs : List (Segment × Node)) :
    (mk ps (cs.filter (·.1 ≠ s))).child? k =
      if s = k then none else (mk ps cs).child? k := by
  induction cs with
  | nil => simp
  | cons c rest ih =>
    obtain ⟨name, m⟩ := c
    by_cases h : name = s
    · rw [List.filter_cons_of_neg (by simpa using h), ih, child?_mk_cons]
      by_cases here : s = k <;> simp [h, here]
    · rw [List.filter_cons_of_pos (by simpa using h), child?_mk_cons, child?_mk_cons, ih]
      by_cases here : name = k
      · simp [here, show s ≠ k from fun eq => h (here.trans eq.symm)]
      · simp [here]

/-- Updating a child keeps the order of the names, with a new one last. -/
theorem names_updateChild (s : Segment) (f : Node → Node) (cs : List (Segment × Node)) :
    (updateChild s f cs).map (·.1) =
      if s ∈ cs.map (·.1) then cs.map (·.1) else cs.map (·.1) ++ [s] := by
  induction cs with
  | nil => rfl
  | cons c rest ih =>
    obtain ⟨name, m⟩ := c
    rw [updateChild]
    by_cases h : name = s
    · simp [h]
    · rw [if_neg h, List.map_cons, ih]
      by_cases mem : s ∈ rest.map (·.1)
      · simp only [List.map_cons, List.mem_cons, mem, or_true, if_true]
      · simp only [List.map_cons, List.mem_cons, mem, Ne.symm h, or_self, if_false, List.cons_append]

theorem names_mapChild (s : Segment) (f : Node → Node) (cs : List (Segment × Node)) :
    (mapChild s f cs).map (·.1) = cs.map (·.1) := by
  rw [mapChild, List.map_map]
  refine List.map_congr_left fun c _ => ?_
  by_cases h : c.1 = s <;> simp [h]

/-- A child that `f` leaves alone makes no difference. -/
theorem updateChild_eq_self {ps : Properties} {s : Segment} {f : Node → Node} {m : Node}
    {cs : List (Segment × Node)} (found : (mk ps cs).child? s = some m) (same : f m = m) :
    updateChild s f cs = cs := by
  induction cs with
  | nil => simp at found
  | cons c rest ih =>
    obtain ⟨name, k⟩ := c
    rw [child?_mk_cons] at found
    rw [updateChild]
    split at found
    · next eq =>
      cases found
      rw [if_pos eq, same]
    · next ne => rw [if_neg ne, ih found]

/-! ## Walks -/

theorem find?_cons (s : Segment) (p : List Segment) (n : Node) :
    find? (s :: p) n = (n.child? s).bind (find? p) := rfl

/-- A walk goes on from where its first part leads. -/
theorem find?_append (p q : List Segment) (n : Node) :
    find? (p ++ q) n = (find? p n).bind (find? q) := by
  induction p generalizing n with
  | nil => rfl
  | cons s p ih =>
    rw [List.cons_append, find?_cons, find?_cons, Option.bind_assoc]
    exact congrArg _ (funext ih)

/-- Below an empty node there is nothing, which reads as empty nodes. -/
theorem getD_find?_empty (p : List Segment) : (find? p empty).getD empty = empty := by
  cases p with
  | nil => rfl
  | cons s p => rfl

/-- A walk through missing nodes finds nothing, so it may start at an empty node as well. -/
theorem getD_bind_find? (m : Option Node) (p : List Segment) :
    (m.bind (find? p)).getD empty = (find? p (m.getD empty)).getD empty := by
  cases m with
  | none => exact (getD_find?_empty p).symm
  | some n => rfl

/-- Making a node changes what is found on the way to it and nothing else. -/
theorem find?_ensure (q p : List Segment) (n : Node) :
    find? q (ensure p n) =
      if q <+: p then some (ensure (p.drop q.length) ((find? q n).getD empty)) else find? q n := by
  induction q generalizing p n with
  | nil => simp [find?]
  | cons s q ih =>
    cases p with
    | nil => simp [ensure]
    | cons k p =>
      obtain ⟨ps, cs⟩ := n
      rw [ensure, find?_cons, find?_cons, child?_updateChild]
      by_cases same : k = s
      · subst same
        simp only [if_true, Option.bind_some, ih, List.cons_prefix_cons, true_and, List.length_cons,
          List.drop_succ_cons]
        split
        · rw [← getD_bind_find?]
          rfl
        · next apart =>
          cases found : (mk ps cs).child? k with
          | some m => simp [found, properties, children]
          | none =>
            cases q with
            | nil => simp at apart
            | cons a q => simp [found, properties, children, find?_cons]
      · rw [if_neg same, if_neg fun h => same (List.cons_prefix_cons.1 h).1.symm]
        rfl

theorem find?_mapProperties (f : Properties → Properties) (q p : List Segment) (n : Node) :
    find? q (mapProperties f p n) =
      if q <+: p then (find? q n).map (mapProperties f (p.drop q.length)) else find? q n := by
  induction q generalizing p n with
  | nil => simp [find?]
  | cons s q ih =>
    cases p with
    | nil =>
      rw [if_neg (by simp)]
      rfl
    | cons k p =>
      obtain ⟨ps, cs⟩ := n
      rw [mapProperties, find?_cons, find?_cons, child?_mapChild]
      by_cases same : k = s
      · subst same
        simp only [if_true, Option.bind_map, List.cons_prefix_cons, true_and, List.length_cons,
          List.drop_succ_cons, properties, children]
        cases (mk ps cs).child? k with
        | none => simp
        | some m => simp [ih]
      · rw [if_neg same, if_neg fun h => same (List.cons_prefix_cons.1 h).1.symm]
        rfl

/-- After a removal nothing is found at or below its place; what is found above has the place
removed, and anything else is as before. -/
theorem find?_remove (q p : List Segment) (s : Segment) (n : Node) :
    find? q (remove (p ++ [s]) n) =
      if p ++ [s] <+: q then none
      else if q <+: p then (find? q n).map (remove ((p ++ [s]).drop q.length))
      else find? q n := by
  induction q generalizing p n with
  | nil => simp [find?]
  | cons k q ih =>
    cases p with
    | nil =>
      simp only [List.nil_append, remove, find?_cons]
      obtain ⟨ps, cs⟩ := n
      rw [properties, children, child?_filter]
      by_cases same : s = k
      · subst same
        simp
      · simp [same]
    | cons a p =>
      obtain ⟨ps, cs⟩ := n
      have unfolded : remove (a :: p ++ [s]) (mk ps cs) =
          mk ps (mapChild a (remove (p ++ [s])) cs) := by
        cases p with
        | nil => rfl
        | cons b p => rfl
      rw [unfolded, find?_cons, find?_cons, child?_mapChild]
      by_cases same : a = k
      · subst same
        simp only [if_true, Option.bind_map, List.cons_append, List.cons_prefix_cons, true_and,
          List.length_cons, List.drop_succ_cons]
        cases (mk ps cs).child? a with
        | none => simp
        | some m => simp [ih]
      · rw [if_neg same, List.cons_append, if_neg fun h => same (List.cons_prefix_cons.1 h).1,
          if_neg fun h => same (List.cons_prefix_cons.1 h).1.symm]

/-! ## The node at the end of a walk -/

theorem properties_ensure (p : List Segment) (n : Node) : (ensure p n).properties = n.properties := by
  cases p with
  | nil => rfl
  | cons s p => rfl

/-- Making a node adds the first name on the way, last, unless it is listed. -/
theorem childNames_ensure_cons (s : Segment) (p : List Segment) (n : Node) :
    (ensure (s :: p) n).childNames =
      if s ∈ n.childNames then n.childNames else n.childNames ++ [s] :=
  names_updateChild s (ensure p) n.children

/-- Nothing is put in where the node is already. -/
theorem ensure_eq_self {p : List Segment} {n m : Node} (h : find? p n = some m) :
    ensure p n = n := by
  induction p generalizing n with
  | nil => rfl
  | cons s p ih =>
    obtain ⟨ps, cs⟩ := n
    obtain ⟨c, found, below⟩ := Option.bind_eq_some_iff.1 (find?_cons s p (mk ps cs) ▸ h)
    rw [ensure, properties, children, updateChild_eq_self found (ih below)]

theorem childNames_mapProperties (f : Properties → Properties) (p : List Segment) (n : Node) :
    (mapProperties f p n).childNames = n.childNames := by
  cases p with
  | nil => rfl
  | cons s p => exact names_mapChild s _ n.children

/-- Removing a child takes its name off the list. -/
theorem childNames_remove_singleton (s : Segment) (n : Node) :
    (remove [s] n).childNames = n.childNames.filter (· ≠ s) := by
  simp only [remove, childNames, children, List.filter_map]
  rfl

/-- Removing a node further down leaves the list of children. -/
theorem childNames_remove_cons_cons (s k : Segment) (p : List Segment) (n : Node) :
    (remove (s :: k :: p) n).childNames = n.childNames :=
  names_mapChild s _ n.children

theorem properties_remove (p : List Segment) (n : Node) : (remove p n).properties = n.properties := by
  match p with
  | [] => rfl
  | [s] => rfl
  | s :: k :: p => rfl

end TreeAdapter.Node
