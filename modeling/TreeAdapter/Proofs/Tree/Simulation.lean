import TreeAdapter.Proofs.Path.Bare
import TreeAdapter.Proofs.Tree.Node
import TreeAdapter.Proofs.Tree.Table

/-!
# A tree and its table

`Tree.table` reads a tree as a flat table. What `insert_node`, `set_property`, `remove_node` and
`load_node` do to a tree is the table's operation: `table_ensure`, `table_mapProperties`,
`removalAt_remove` and `table_loadNode`. For removal this says as well that the table's recursion
comes to an end, which is an induction on the removed node, and that no failure comes from below,
since the text of a child is read as the child.
-/

namespace TreeAdapter
set_option autoImplicit false

def Node.row (n : Node) : Row :=
  ⟨n.properties, n.childNames.map (·.val)⟩

/-- Each node at its path. -/
def Tree.table (t : Tree) : Table :=
  ⟨fun p => (t.node? p).map Node.row⟩

namespace Tree

theorem row?_table (t : Tree) (p : Path) : t.table.row? p = (t.node? p).map Node.row := rfl

@[simp] theorem contains_table (t : Tree) (p : Path) : t.table.contains p = t.contains p := by
  simp [Table.contains, row?_table, contains]

/-- No listed name leads nowhere, so the table's children are the tree's. -/
theorem childPaths_table (t : Tree) (p : Path) : t.table.childPaths p = t.childPaths p := by
  rw [Table.childPaths, childPaths, row?_table]
  cases t.node? p with
  | none => rfl
  | some n =>
    show (n.childNames.map (·.val)).filterMap p.join = n.childNames.map p.child
    rw [List.filterMap_map, ← List.filterMap_eq_map]
    exact congrArg (List.filterMap · n.childNames) (funext (Path.join_plain p))

/-- The table of the tree with a root only is the table that a run begins with. -/
theorem table_empty : empty.table = Table.empty := by
  ext1
  funext q
  obtain ⟨segments⟩ := q
  cases segments with
  | nil => rfl
  | cons s rest => simp [row?_table, node?, Tree.empty, Table.empty, Path.root, Node.find?_cons]

/-! ## Putting in -/

/-- A path is followed to its parent first and then to the child. -/
theorem node?_child (t : Tree) (p : Path) (s : Segment) :
    t.node? (p.child s) = (t.node? p).bind (·.child? s) := by
  rw [node?, Path.child, Node.find?_append]
  refine congrArg _ (funext fun n => ?_)
  rw [Node.find?_cons]
  cases n.child? s <;> rfl

/-- Where a node is already, making one changes nothing. -/
theorem ensure_eq_self {t : Tree} {p : Path} (h : t.contains p = true) : t.ensure p = t := by
  obtain ⟨n, found⟩ := Option.isSome_iff_exists.1 h
  rw [ensure, Node.ensure_eq_self found]

/-- Making a node changes the nodes on the way to it and no others. -/
theorem node?_ensure (t : Tree) (p q : Path) :
    (t.ensure p).node? q =
      if q.segments <+: p.segments then
        some (Node.ensure (p.segments.drop q.segments.length) ((t.node? q).getD Node.empty))
      else t.node? q :=
  Node.find?_ensure q.segments p.segments t.root

end Tree

theorem Table.ensure_of_contains {T : Table} {p : Path} (h : T.contains p = true) :
    T.ensure p = T := by
  rw [ensure, if_pos h]

/-- A missing child is made after its parent: the parent lists it and it gets an empty row. -/
theorem Table.ensure_child {T : Table} {p : Path} {s : Segment}
    (h : ¬T.contains (p.child s) = true) :
    T.ensure (p.child s) =
      ((T.ensure p).modify p (Row.list s.val)).put (p.child s) Row.empty := by
  rw [ensure, if_neg h]
  split
  · next parent => simp at parent
  · next q parent =>
    rw [Path.parent?_child, Option.some.injEq] at parent
    rw [parent, Path.name_child]

/-- Going one step deeper leaves the row of a node two steps above or more. -/
theorem Node.row_ensure_cons_append (k s : Segment) (p : List Segment) (n : Node) :
    (Node.ensure (k :: (p ++ [s])) n).row = (Node.ensure (k :: p) n).row := by
  rw [row, row, properties_ensure, properties_ensure, childNames_ensure_cons, childNames_ensure_cons]

/-- The parent of a new node lists it last. -/
theorem Node.row_ensure_singleton {s : Segment} {n : Node} (h : n.child? s = none) :
    (Node.ensure [s] n).row = n.row.list s.val := by
  have absent : s ∉ n.childNames := by
    rw [← isSome_child?, h]
    exact Bool.false_ne_true
  rw [row, properties_ensure, childNames_ensure_cons, if_neg absent]
  simp [row, Row.list]

/-- Making a node commutes with the view of a tree as a table. -/
theorem Tree.table_ensure (t : Tree) (p : Path) : (t.ensure p).table = t.table.ensure p := by
  induction p using Path.induction with
  | root => rw [Table.ensure_of_contains (contains_table t _)]; rfl
  | child p s ih =>
    by_cases stored : t.contains (p.child s) = true
    · rw [ensure_eq_self stored, Table.ensure_of_contains (by rwa [contains_table])]
    · rw [Table.ensure_child (by rwa [contains_table]), ← ih]
      have absent : ((t.node? p).getD Node.empty).child? s = none := by
        have missing := Option.not_isSome_iff_eq_none.1 stored
        rw [node?_child] at missing
        cases found : t.node? p with
        | none => rfl
        | some n => simpa [found] using missing
      ext1
      funext q
      simp only [Table.put, Table.modify, row?_table, node?_ensure]
      by_cases here : q = p.child s
      · subst here
        have missing : t.node? (p.child s) = none := Option.not_isSome_iff_eq_none.1 stored
        simp [missing, Node.ensure, Node.row, Node.childNames, Node.empty, Node.properties,
          Node.children, Row.empty]
      rw [if_neg here]
      rcases Path.place q p with rfl | ⟨apart, k, r, split⟩ | ⟨apart, beside⟩
      · rw [if_pos (Path.prefix_child_iff.2 (.inr List.prefix_rfl)), if_pos rfl,
          if_pos List.prefix_rfl, Path.child, List.drop_left, List.drop_length, Option.map_some,
          Option.map_some, Option.map_some, Node.row_ensure_singleton absent]
        rfl
      · have above : q.segments <+: p.segments := ⟨k :: r, split.symm⟩
        rw [if_pos (Path.prefix_child_iff.2 (.inr above)), if_neg apart, if_pos above, Path.child,
          split, List.append_assoc, List.drop_left, List.drop_left, Option.map_some,
          Option.map_some, List.cons_append, Node.row_ensure_cons_append]
      · rw [if_neg fun h => (Path.prefix_child_iff.1 h).elim here beside, if_neg apart,
          if_neg beside]

/-! ## Changing properties -/

/-- Properties set below a node are not in its own row. -/
theorem Node.row_mapProperties_cons (f : Properties → Properties) (k : Segment)
    (p : List Segment) (n : Node) : (Node.mapProperties f (k :: p) n).row = n.row := by
  rw [row, childNames_mapProperties]
  rfl

/-- A row that is not stored cannot be changed. -/
theorem Table.modify_of_absent {T : Table} {p : Path} (f : Row → Row) (h : T.row? p = none) :
    T.modify p f = T := by
  ext1
  funext q
  rw [row?_modify]
  split
  · next here => rw [here, h]; rfl
  · rfl

/-- Setting properties commutes with the view of a tree as a table. -/
theorem Tree.table_mapProperties (t : Tree) (f : Properties → Properties) (p : Path) :
    (t.mapProperties f p).table = t.table.modify p (Row.update f) := by
  ext1
  funext q
  simp only [Table.modify, row?_table, node?, mapProperties, Node.find?_mapProperties]
  rcases Path.place q p with rfl | ⟨apart, k, r, split⟩ | ⟨apart, beside⟩
  · rw [if_pos List.prefix_rfl, if_pos rfl, List.drop_length, Option.map_map, Option.map_map]
    rfl
  · rw [if_pos ⟨k :: r, split.symm⟩, if_neg apart, split, List.drop_left, Option.map_map]
    exact congrArg (Option.map · _) (funext (Node.row_mapProperties_cons f k r))
  · rw [if_neg beside, if_neg apart]

/-! ## Taking out -/

/-- The table without a path and all below it, the name gone from the parent's list. -/
def Table.cut (T : Table) (p : Path) : Table :=
  ⟨fun q =>
    if p.segments <+: q.segments then none
    else if p.parent? = some q then (T.row? q).map (Row.unlist p.name)
    else T.row? q⟩

/-- The parent of a removed node no longer lists it. -/
theorem Node.row_remove_singleton (s : Segment) (n : Node) :
    (Node.remove [s] n).row = n.row.unlist s.val := by
  rw [row, properties_remove, childNames_remove_singleton, row, Row.unlist, List.filter_map]
  simp [Function.comp_def, Subtype.ext_iff]

theorem Node.row_remove_cons_cons (k l : Segment) (p : List Segment) (n : Node) :
    (Node.remove (k :: l :: p) n).row = n.row := by
  rw [row, properties_remove, childNames_remove_cons_cons, row]

/-- Taking a subtree away cuts its rows off the table. -/
theorem Tree.table_remove (t : Tree) (p : Path) (s : Segment) :
    (Tree.mk (t.root.remove (p.child s).segments)).table = t.table.cut (p.child s) := by
  ext1
  funext q
  simp only [Table.cut, row?_table, node?, Path.parent?_child, Path.name_child, Option.some.injEq]
  rw [Path.child, Node.find?_remove]
  by_cases below : p.segments ++ [s] <+: q.segments
  · rw [if_pos below, if_pos below]
    rfl
  rw [if_neg below, if_neg below]
  rcases Path.place q p with rfl | ⟨apart, k, r, split⟩ | ⟨apart, beside⟩
  · rw [if_pos List.prefix_rfl, if_pos rfl, List.drop_left, Option.map_map, Option.map_map]
    exact congrArg (Option.map · _) (funext (Node.row_remove_singleton s))
  · rw [if_pos ⟨k :: r, split.symm⟩, if_neg apart.symm, split, List.append_assoc, List.drop_left,
      Option.map_map, List.cons_append]
    refine congrArg (Option.map · _) (funext fun n => ?_)
    cases r with
    | nil => exact Node.row_remove_cons_cons k s [] n
    | cons l r => exact Node.row_remove_cons_cons k l (r ++ [s]) n
  · rw [if_neg beside, if_neg apart.symm]

/-- A child is smaller than its parent; the recursion of a removal ends by it. -/
theorem Node.sizeOf_lt_of_child? {n m : Node} {s : Segment} (h : n.child? s = some m) :
    sizeOf m < sizeOf n := by
  obtain ⟨ps, cs⟩ := n
  obtain ⟨c, found, rfl⟩ := Option.map_eq_some_iff.1 h
  have inside : sizeOf c < sizeOf cs := List.sizeOf_lt_of_mem (List.mem_of_find?_eq_some found)
  obtain ⟨k, m⟩ := c
  simp only [Prod.mk.sizeOf_spec, mk.sizeOf_spec] at inside ⊢
  omega

namespace Table

/-- From `p` down the table stores a node with all below it. -/
def Holds (T : Table) (p : Path) (n : Node) : Prop :=
  ∀ x : List Segment, T.row? ⟨p.segments ++ x⟩ = (n.find? x).map Node.row

/-- From `p` down the table stores nothing. -/
def Vacant (T : Table) (p : Path) : Prop :=
  ∀ x : List Segment, T.row? ⟨p.segments ++ x⟩ = none

/-- What is taken out below an absent node stands in no list. -/
theorem row?_cut_child {T : Table} {p : Path} (s : Segment) (absent : T.row? p = none) (q : Path) :
    (T.cut (p.child s)).row? q =
      if (p.child s).segments <+: q.segments then none else T.row? q := by
  simp only [cut, Path.parent?_child, Option.some.injEq]
  by_cases here : p = q
  · subst here
    simp [absent]
  · rw [if_neg here]

/-- Cutting where nothing is changes nothing. -/
theorem cut_child_of_vacant {T : Table} {p : Path} {s : Segment} (absent : T.row? p = none)
    (vacant : T.Vacant (p.child s)) : T.cut (p.child s) = T := by
  ext1
  funext q
  rw [row?_cut_child s absent]
  split
  · next below =>
    obtain ⟨x, eq⟩ := below
    have row := vacant x
    rw [eq] at row
    exact row.symm
  · rfl

/-- The text of a child names the child for removal. -/
theorem removable_child (p : Path) (s : Segment) :
    removable (p.child s).text = .ok (p.child s, p) :=
  removable_of_parent (Path.parse_text _) (Path.parent?_child p s)

/-- The loop over the listed names takes out what lies below each of them. -/
theorem exists_removalBelow {n : Node} {p : Path}
    (below : ∀ s m, n.child? s = some m → ∀ T : Table, T.Holds (p.child s) m →
      T.RemovalAt (p.child s).text (.ok true) (T.cut (p.child s)))
    (names : List Segment) {T : Table} (absent : T.row? p = none)
    (rows : ∀ s, T.Vacant (p.child s) ∨ ∃ m, n.child? s = some m ∧ T.Holds (p.child s) m) :
    ∃ T', T.RemovalBelow p (names.map (·.val)) none T' ∧
      ∀ q, T'.row? q =
        if ∃ s ∈ names, (p.child s).segments <+: q.segments then none else T.row? q := by
  induction names generalizing T with
  | nil => exact ⟨T, .nil, by simp⟩
  | cons s names ih =>
    obtain ⟨found, head⟩ :
        ∃ found, T.RemovalAt (p.child s).text (.ok found) (T.cut (p.child s)) := by
      rcases rows s with vacant | ⟨m, found, holds⟩
      · rw [cut_child_of_vacant absent vacant]
        exact ⟨false, .absent (removable_child p s) (by simpa using vacant [])⟩
      · exact ⟨true, below s m found T holds⟩
    have absent' : (T.cut (p.child s)).row? p = none := by
      rw [row?_cut_child s absent, absent, ite_self]
    have rows' : ∀ k, (T.cut (p.child s)).Vacant (p.child k) ∨
        ∃ m, n.child? k = some m ∧ (T.cut (p.child s)).Holds (p.child k) m := by
      intro k
      by_cases same : s = k
      · subst same
        exact .inl fun x => by rw [row?_cut_child s absent, if_pos (List.prefix_append _ _)]
      · have kept (x : List Segment) : (T.cut (p.child s)).row? ⟨(p.child k).segments ++ x⟩ =
            T.row? ⟨(p.child k).segments ++ x⟩ := by
          rw [row?_cut_child s absent, if_neg]
          simp [Path.child, List.prefix_append_right_inj, same]
        rcases rows k with vacant | ⟨m, found, holds⟩
        · left
          intro x
          rw [kept, vacant x]
        · refine .inr ⟨m, found, ?_⟩
          intro x
          rw [kept, holds x]
    obtain ⟨T', tail, result⟩ := ih absent' rows'
    refine ⟨T', .cons (Path.join_plain p s) head tail, fun q => ?_⟩
    rw [result, row?_cut_child s absent]
    by_cases first : (p.child s).segments <+: q.segments
    · rw [if_pos first, ite_self, if_pos ⟨s, List.mem_cons_self, first⟩]
    · simp only [List.mem_cons, exists_eq_or_imp, first, false_or, if_false]

/-- What lies below a child is still there once the node itself is gone. -/
theorem Holds.row?_drop_child {T : Table} {p : Path} {n : Node} (holds : T.Holds p n) (s : Segment)
    (x : List Segment) :
    (T.drop p).row? ⟨(p.child s).segments ++ x⟩ =
      ((n.child? s).bind (Node.find? x)).map Node.row := by
  have apart : (⟨(p.child s).segments ++ x⟩ : Path) ≠ p := by
    intro eq
    have := congrArg (·.segments.length) eq
    simp [Path.child] at this
  rw [row?_drop, if_neg apart, Path.child, List.append_assoc]
  exact holds (s :: x)

/-- With the node and all that its list names gone, nothing is left from `p` down. -/
theorem Holds.row?_removed {T T' : Table} {p : Path} {n : Node} (holds : T.Holds p n)
    (removed : ∀ q, T'.row? q =
      if ∃ s ∈ n.childNames, (p.child s).segments <+: q.segments then none else (T.drop p).row? q)
    (q : Path) : T'.row? q = if p.segments <+: q.segments then none else T.row? q := by
  rw [removed]
  rcases Path.place p q with rfl | ⟨_, s, x, split⟩ | ⟨apart, beside⟩
  · rw [row?_drop, if_pos rfl, ite_self, if_pos List.prefix_rfl]
  · have below : p.segments <+: q.segments := ⟨s :: x, split.symm⟩
    have inside : q = ⟨(p.child s).segments ++ x⟩ := by
      cases q
      simpa [Path.child] using split
    rw [if_pos below]
    split
    · rfl
    · next unlisted =>
      have absent : n.child? s = none := by
        rw [← Option.not_isSome_iff_eq_none, Node.isSome_child?]
        exact fun listed => unlisted ⟨s, listed, x, by rw [inside]⟩
      rw [inside, holds.row?_drop_child, absent]
      rfl
  · rw [if_neg beside, if_neg, row?_drop, if_neg (Ne.symm apart)]
    rintro ⟨s, _, below⟩
    exact beside ((List.prefix_append _ _).trans below)

/-- A table that lost the rows at and below a path, and the entry that led there, is the one cut
there. -/
theorem modify_eq_cut {T T' : Table} {p q : Path} (parent : p.parent? = some q)
    (rows : ∀ r, T'.row? r = if p.segments <+: r.segments then none else T.row? r) :
    T'.modify q (Row.unlist p.name) = T.cut p := by
  ext1
  funext r
  simp only [cut, modify, rows, parent, Option.some.injEq]
  by_cases here : q = r
  · subst here
    have above : ¬p.segments <+: q.segments := fun h =>
      absurd h.length_le (Nat.not_le.2 (length_parent?_lt parent))
    simp [above]
  · rw [if_neg here, if_neg (Ne.symm here)]

/-- The removal of a stored node comes to an end, and takes out what lies below it. -/
theorem removalAt_cut {T : Table} {text : String} {p q : Path} {n : Node}
    (named : removable text = .ok (p, q)) (parent : p.parent? = some q) (holds : T.Holds p n) :
    T.RemovalAt text (.ok true) (T.cut p) := by
  have found : T.row? p = some n.row := by simpa [Node.find?] using holds []
  have rows (s : Segment) : (T.drop p).Vacant (p.child s) ∨
      ∃ m, n.child? s = some m ∧ (T.drop p).Holds (p.child s) m := by
    cases child : n.child? s with
    | none => exact .inl fun x => by rw [holds.row?_drop_child, child]; rfl
    | some m => exact .inr ⟨m, rfl, fun x => by rw [holds.row?_drop_child, child]; rfl⟩
  obtain ⟨T', below, removed⟩ := exists_removalBelow (T := T.drop p)
    (fun s m child U inside => removalAt_cut (removable_child p s) (Path.parent?_child p s) inside)
    n.childNames (by rw [row?_drop, if_pos rfl]) rows
  rw [← modify_eq_cut parent (holds.row?_removed removed)]
  exact .taken named found below
termination_by sizeOf n
decreasing_by exact Node.sizeOf_lt_of_child? child

end Table

namespace Tree

/-- On the table of a tree the removal below the root comes to its end, with the table of the tree
without the node. -/
theorem removalAt_remove (t : Tree) {text : String} {q : Path} {s : Segment}
    (read : Path.parse text = .ok (q.child s)) :
    t.table.RemovalAt text (.ok (t.contains (q.child s)))
      (if t.contains (q.child s) then Tree.mk (t.root.remove (q.child s).segments) else t).table := by
  have named := Table.removable_of_parent read (Path.parent?_child q s)
  cases stored : t.contains (q.child s) with
  | true =>
    obtain ⟨n, found⟩ := Option.isSome_iff_exists.1 stored
    have holds : t.table.Holds (q.child s) n := by
      intro x
      rw [row?_table, node?, Node.find?_append, ← node?, found]
      rfl
    rw [if_pos rfl, table_remove]
    exact Table.removalAt_cut named (Path.parent?_child q s) holds
  | false =>
    have absent : t.table.row? (q.child s) = none := by
      rw [row?_table, Option.map_eq_none_iff]
      exact Option.isNone_iff_eq_none.1 (Option.isSome_eq_false_iff.1 stored)
    exact .absent named absent

/-! ## Loading -/

mutual

/-- Loading a document commutes with the view of a tree as a table. -/
theorem table_loadNode (t : Tree) (p : Path) (document : Json) :
    (t.loadNode p document).map table = t.table.loadNode p document := by
  cases document with
  | object members =>
    rw [loadNode, Table.loadNode, ← table_ensure]
    exact table_loadMembers (t.ensure p) p members
  | _ =>
    rw [loadNode, Table.loadNode, ← table_ensure]
    · rfl
    all_goals simp

theorem table_loadMembers (t : Tree) (p : Path) (members : List (String × Json)) :
    (t.loadMembers p members).map table = t.table.loadMembers p members := by
  cases members with
  | nil => rw [loadMembers, Table.loadMembers]; rfl
  | cons member rest =>
    obtain ⟨name, value⟩ := member
    rw [loadMembers, Table.loadMembers]
    split
    · cases p.join name with
      | none => rfl
      | some child =>
        have inner := table_loadNode t child value
        cases loaded : t.loadNode child value with
        | error e =>
          rw [loaded] at inner
          simp only [← inner, loaded]
          rfl
        | ok u =>
          rw [loaded] at inner
          simp only [← inner, loaded]
          exact table_loadMembers u p rest
    · cases propertyOf value with
      | error e => rfl
      | ok property =>
        cases property with
        | none => exact table_loadMembers t p rest
        | some property =>
          refine (table_loadMembers _ p rest).trans ?_
          rw [table_mapProperties]
          rfl

end

/-- A document is accepted as a tree exactly when it is as a table, and the table shows the tree. -/
theorem table_ofJson (document : Json) : (ofJson document).map table = Table.ofJson document := by
  cases document with
  | object members =>
    rw [ofJson, Table.ofJson, ← table_empty]
    exact table_loadNode empty Path.root (.object members)
  | _ => rfl

/-! ## Calls -/

/-- The tree after a call; a failing call leaves it as it is. -/
def call (t : Tree) : TreeCall → Tree
  | .insertNode path => (t.insertNode path).toOption.getD t
  | .setProperty path name value => (t.setProperty path name value).toOption.getD t
  | .removeProperty path name => ((t.removeProperty path name).map (·.1)).toOption.getD t
  | .removeNode path => ((t.removeNode path).map (·.1)).toOption.getD t

/-- The tree at the start: of the root alone, or of a document. -/
def start : Option Json → Except TreeError Tree
  | none => .ok empty
  | some document => ofJson document

/-- What a call does at the path that its text stands for. -/
def callAt (t : Tree) (p : Path) : TreeCall → Tree
  | .insertNode _ => t.ensure p
  | .setProperty _ name value =>
    if t.contains p then t.mapProperties (·.insert name value) p else t
  | .removeProperty _ name => if t.contains p then t.mapProperties (·.erase name) p else t
  | .removeNode _ =>
    if p.isRoot then t else if t.contains p then ⟨t.root.remove p.segments⟩ else t

/-- A call with an unreadable path has no effect; any other acts at the path that is read. -/
theorem call_eq (t : Tree) (c : TreeCall) :
    t.call c = match Path.parse c.path with
      | .ok p => t.callAt p c
      | .error _ => t := by
  cases c with
  | insertNode path =>
    simp only [call, insertNode, parsePath, TreeCall.path]
    cases Path.parse path <;> rfl
  | setProperty path name value =>
    simp only [call, setProperty, parsePath, TreeCall.path]
    cases Path.parse path with
    | error e => rfl
    | ok p => cases stored : t.contains p <;> simp [callAt, stored, bind, Except.bind] <;> rfl
  | removeProperty path name =>
    simp only [call, removeProperty, parsePath, TreeCall.path]
    cases Path.parse path with
    | error e => rfl
    | ok p => cases stored : t.contains p <;> simp [callAt, stored, bind, Except.bind] <;> rfl
  | removeNode path =>
    simp only [call, removeNode, parsePath, TreeCall.path]
    cases Path.parse path with
    | error e => rfl
    | ok p =>
      cases root : p.isRoot with
      | true => simp [callAt, root, bind, Except.bind]; rfl
      | false => cases stored : t.contains p <;> simp [callAt, root, stored, bind, Except.bind] <;> rfl

/-- At a path that is read, the table semantics of a call allows what the tree does and nothing
else. -/
theorem callsAt_iff {t : Tree} {p : Path} {c : TreeCall} {T : Table}
    (read : Path.parse c.path = .ok p) : t.table.CallsAt p c T ↔ T = (t.callAt p c).table := by
  have absent (f : Row → Row) (h : ¬t.contains p = true) : t.table.modify p f = t.table :=
    Table.modify_of_absent f (by rw [row?_table, Option.not_isSome_iff_eq_none.1 h]; rfl)
  cases c with
  | insertNode path => rw [Table.CallsAt, callAt, table_ensure]
  | setProperty path name value =>
    rw [Table.CallsAt, callAt]
    split
    · rw [table_mapProperties]
    · next missing => rw [absent _ missing]
  | removeProperty path name =>
    rw [Table.CallsAt, callAt]
    split
    · rw [table_mapProperties]
    · next missing => rw [absent _ missing]
  | removeNode path =>
    obtain ⟨answer, course⟩ :
        ∃ answer, t.table.RemovalAt path answer (t.callAt p (.removeNode path)).table := by
      rw [callAt]
      induction p using Path.induction with
      | root => exact ⟨_, .refused (Table.removable_of_root read)⟩
      | child q s _ =>
        rw [Path.isRoot_child]
        exact ⟨_, removalAt_remove t read⟩
    rw [Table.CallsAt]
    constructor
    · rintro ⟨answer', course'⟩
      exact (course'.unique course).2
    · rintro rfl
      exact ⟨answer, course⟩

/-- The table after a call is the table of the tree after it. -/
theorem calls_iff {t : Tree} {c : TreeCall} {T : Table} :
    t.table.Calls c T ↔ T = (t.call c).table := by
  rw [Table.Calls, call_eq]
  cases read : Path.parse c.path with
  | error e => rfl
  | ok p => exact callsAt_iff read

/-- The table after a run is the table of the tree after it. -/
theorem runs_iff {t : Tree} {calls : List TreeCall} {T : Table} :
    t.table.Runs calls T ↔ T = (calls.foldl call t).table := by
  induction calls generalizing t with
  | nil => exact Iff.rfl
  | cons c rest ih =>
    rw [Table.Runs, List.foldl_cons, ← ih]
    constructor
    · rintro ⟨U, head, tail⟩
      rwa [← calls_iff.1 head]
    · exact fun tail => ⟨_, calls_iff.2 rfl, tail⟩

end Tree
end TreeAdapter
