import Mathlib.Data.List.Nodup
import TreeAdapter.Proofs.Except
import TreeAdapter.Proofs.Tree.Simulation

/-!
# Coherent trees

In a coherent table the two ways to read the structure say the same: what is stored, as `exists`
asks, and what the lists name, as `child_paths` gives it. Every table read off a tree is coherent as
soon as no node lists a name twice (`Tree.coherent_table`), and that is what loading and calls keep.

* `Tree.distinct_ofJson`, `Tree.distinct_call` — the invariant at the start and after a call
* `Table.Coherent.listsChildren` — the listing of a coherent table
* `Tree.run_coherent` — a run of calls on flat tables ends, in the table of the tree that the same
  calls lead to, and that table is coherent
-/

namespace TreeAdapter
set_option autoImplicit false

/-! ## Coherence of a table -/

/-- What is stored and what is listed agree. -/
structure Table.Coherent (T : Table) : Prop where
  root : T.contains Path.root = true
  parent : ∀ p q, T.contains p = true → p.parent? = some q → T.contains q = true
  nodup : ∀ p row, T.row? p = some row → row.children.Nodup
  listed_iff : ∀ p row, T.row? p = some row → ∀ name, name ∈ row.children ↔
    ∃ plain : IsPlainSegment name, T.contains (p.child ⟨name, plain⟩) = true

/-- The listing at `p` is what is stored right below, each path once, and no listed name is lost. -/
structure Table.ListsChildren (T : Table) (p : Path) : Prop where
  nodup : (T.childPaths p).Nodup
  mem_iff : ∀ q, q ∈ T.childPaths p ↔ T.contains q = true ∧ q.parent? = some p
  complete : ∀ row, T.row? p = some row → (T.childPaths p).length = row.children.length

namespace Table.Coherent
variable {T : Table}

/-- Each listed name leads to the child of that name. -/
theorem join_listed (coherent : T.Coherent) {p : Path} {row : Row} (found : T.row? p = some row)
    {name : String} (listed : name ∈ row.children) :
    ∃ s : Segment, s.val = name ∧ p.join name = some (p.child s) := by
  obtain ⟨plain, _⟩ := (coherent.listed_iff p row found name).1 listed
  exact ⟨⟨name, plain⟩, rfl, Path.join_plain p ⟨name, plain⟩⟩

/-- In a coherent table, the child paths of a path are the paths with a row whose parent it is. -/
theorem mem_childPaths_iff (coherent : T.Coherent) (p q : Path) :
    q ∈ T.childPaths p ↔ T.contains q = true ∧ q.parent? = some p := by
  rw [childPaths]
  constructor
  · intro mem
    cases found : T.row? p with
    | none => simp [found] at mem
    | some row =>
      simp only [found, List.mem_filterMap] at mem
      obtain ⟨name, listed, leads⟩ := mem
      obtain ⟨plain, stored⟩ := (coherent.listed_iff p row found name).1 listed
      rw [Path.join_plain p ⟨name, plain⟩, Option.some.injEq] at leads
      rw [← leads]
      exact ⟨stored, Path.parent?_child p _⟩
  · rintro ⟨stored, parent⟩
    obtain ⟨row, found⟩ := Option.isSome_iff_exists.1 (coherent.parent q p stored parent)
    obtain ⟨s, rfl⟩ := Path.parent?_eq_some_iff.1 parent
    simp only [found, List.mem_filterMap]
    exact ⟨s.val, (coherent.listed_iff p row found s.val).2 ⟨s.property, stored⟩,
      Path.join_plain p s⟩

/-- A coherent table lists no child path twice. -/
theorem nodup_childPaths (coherent : T.Coherent) (p : Path) : (T.childPaths p).Nodup := by
  rw [childPaths]
  cases found : T.row? p with
  | none => exact List.nodup_nil
  | some row =>
    refine List.pairwise_filterMap.2 ((coherent.nodup p row found).imp_of_mem ?_)
    intro a b listedA listedB apart c leadsA d leadsB same
    obtain ⟨s, rfl, joinA⟩ := coherent.join_listed found listedA
    obtain ⟨k, rfl, joinB⟩ := coherent.join_listed found listedB
    rw [joinA, Option.some.injEq] at leadsA
    rw [joinB, Option.some.injEq] at leadsB
    have eq : s = k := (Path.child_inj.1 (leadsA.trans (same.trans leadsB.symm))).2
    exact apart (congrArg _ eq)

/-- A coherent table lists a path for each child of a row, so no name is skipped. -/
theorem length_childPaths (coherent : T.Coherent) {p : Path} {row : Row}
    (found : T.row? p = some row) : (T.childPaths p).length = row.children.length := by
  rw [childPaths, found]
  apply List.filterMap_length_eq_length.2
  intro name listed
  obtain ⟨s, _, leads⟩ := coherent.join_listed found listed
  rw [leads]
  rfl

/-- A coherent table lists the children of every path. -/
theorem listsChildren (coherent : T.Coherent) (p : Path) : T.ListsChildren p where
  nodup := coherent.nodup_childPaths p
  mem_iff := coherent.mem_childPaths_iff p
  complete := fun _ found => coherent.length_childPaths found

end Table.Coherent

/-! ## Distinct names -/

/-- Making a node lists no name twice. -/
theorem Node.nodup_childNames_ensure {n : Node} (p : List Segment) (h : n.childNames.Nodup) :
    (n.ensure p).childNames.Nodup := by
  cases p with
  | nil => exact h
  | cons s p =>
    rw [childNames_ensure_cons]
    split
    · exact h
    · next absent =>
      refine List.nodup_append.2 ⟨h, by simp, ?_⟩
      intro a mem b last eq
      apply absent
      rw [← List.mem_singleton.1 last, ← eq]
      exact mem

theorem Node.nodup_childNames_remove {n : Node} (p : List Segment) (h : n.childNames.Nodup) :
    (n.remove p).childNames.Nodup := by
  match p with
  | [] => exact h
  | [s] => rw [childNames_remove_singleton]; exact h.filter _
  | s :: k :: p => rw [childNames_remove_cons_cons]; exact h

namespace Tree

/-- No node lists a name twice. -/
def Distinct (t : Tree) : Prop :=
  ∀ p n, t.node? p = some n → n.childNames.Nodup

theorem distinct_empty : Distinct empty := by
  intro p n found
  obtain ⟨segments⟩ := p
  cases segments with
  | nil =>
    cases found
    exact List.nodup_nil
  | cons s rest => simp [node?, Tree.empty, Node.find?_cons] at found

/-- Making a node keeps the names of siblings distinct. -/
theorem distinct_ensure {t : Tree} (p : Path) (h : t.Distinct) : (t.ensure p).Distinct := by
  intro q n found
  rw [node?_ensure] at found
  split at found
  · cases found
    refine Node.nodup_childNames_ensure _ ?_
    cases above : t.node? q with
    | none => exact List.nodup_nil
    | some m => exact h q m above
  · exact h q n found

theorem distinct_mapProperties {t : Tree} (f : Properties → Properties) (p : Path)
    (h : t.Distinct) : (t.mapProperties f p).Distinct := by
  intro q n found
  rw [node?, mapProperties, Node.find?_mapProperties] at found
  split at found
  · obtain ⟨m, above, rfl⟩ := Option.map_eq_some_iff.1 found
    rw [Node.childNames_mapProperties]
    exact h q m above
  · exact h q n found

theorem distinct_remove {t : Tree} (p : Path) (s : Segment) (h : t.Distinct) :
    Distinct ⟨t.root.remove (p.child s).segments⟩ := by
  intro q n found
  rw [node?, Path.child, Node.find?_remove] at found
  split at found
  · cases found
  · split at found
    · obtain ⟨m, above, rfl⟩ := Option.map_eq_some_iff.1 found
      exact Node.nodup_childNames_remove _ (h q m above)
    · exact h q n found

mutual

/-- Loading only puts nodes in and changes properties. -/
theorem loadNode_induction {motive : Tree → Prop}
    (ensure : ∀ t p, motive t → motive (t.ensure p))
    (mapProperties : ∀ t f p, motive t → motive (t.mapProperties f p)) {t u : Tree} {p : Path}
    {document : Json} (loaded : t.loadNode p document = .ok u) (h : motive t) : motive u := by
  cases document with
  | object members =>
    rw [loadNode] at loaded
    exact loadMembers_induction ensure mapProperties loaded (ensure t p h)
  | _ =>
    rw [loadNode, Except.ok.injEq] at loaded
    · exact loaded ▸ ensure t p h
    all_goals simp

/-- What both steps of loading keep, loading the members of an object keeps. -/
theorem loadMembers_induction {motive : Tree → Prop}
    (ensure : ∀ t p, motive t → motive (t.ensure p))
    (mapProperties : ∀ t f p, motive t → motive (t.mapProperties f p)) {t u : Tree} {p : Path}
    {members : List (String × Json)} (loaded : t.loadMembers p members = .ok u) (h : motive t) :
    motive u := by
  cases members with
  | nil =>
    rw [loadMembers, Except.ok.injEq] at loaded
    exact loaded ▸ h
  | cons member rest =>
    obtain ⟨name, value⟩ := member
    rw [loadMembers] at loaded
    split at loaded
    · split at loaded
      · cases loaded
      · next child _ =>
        obtain ⟨v, inner, loaded⟩ := bind_eq_ok.1 loaded
        exact loadMembers_induction ensure mapProperties loaded
          (loadNode_induction ensure mapProperties inner h)
    · obtain ⟨property, _, loaded⟩ := bind_eq_ok.1 loaded
      split at loaded
      · exact loadMembers_induction ensure mapProperties loaded (mapProperties t _ p h)
      · exact loadMembers_induction ensure mapProperties loaded h

end

/-- In a tree read from a document the names of siblings are distinct, however often the document
repeats them. -/
theorem distinct_ofJson {document : Json} {t : Tree} (h : ofJson document = .ok t) :
    t.Distinct := by
  cases document with
  | object members =>
    exact loadNode_induction (fun _ p => distinct_ensure p) (fun _ f p => distinct_mapProperties f p)
      h distinct_empty
  | _ => cases h

/-- A run starts with distinct names among siblings. -/
theorem distinct_start {source : Option Json} {t : Tree} (h : start source = .ok t) :
    t.Distinct := by
  cases source with
  | none =>
    cases h
    exact distinct_empty
  | some document => exact distinct_ofJson h

/-- No call at a path repeats a name among siblings. -/
theorem distinct_callAt {t : Tree} (p : Path) (c : TreeCall) (h : t.Distinct) :
    (t.callAt p c).Distinct := by
  cases c with
  | insertNode path => exact distinct_ensure p h
  | setProperty path name value =>
    rw [callAt]
    split
    · exact distinct_mapProperties _ p h
    · exact h
  | removeProperty path name =>
    rw [callAt]
    split
    · exact distinct_mapProperties _ p h
    · exact h
  | removeNode path =>
    rw [callAt]
    induction p using Path.induction with
    | root => exact h
    | child p s _ =>
      split
      · exact h
      · split
        · exact distinct_remove p s h
        · exact h

/-- No call repeats a name among siblings. -/
theorem distinct_call {t : Tree} (c : TreeCall) (h : t.Distinct) : (t.call c).Distinct := by
  rw [call_eq]
  cases Path.parse c.path with
  | error e => exact h
  | ok p => exact distinct_callAt p c h

theorem distinct_foldl_call {t : Tree} (calls : List TreeCall) (h : t.Distinct) :
    (calls.foldl call t).Distinct := by
  induction calls generalizing t with
  | nil => exact h
  | cons c rest ih => exact ih (distinct_call c h)

/-! ## Coherence of a tree -/

theorem contains_root (t : Tree) : t.contains Path.root = true := rfl

/-- The parent of a node is a node. -/
theorem contains_of_contains_child {t : Tree} {p : Path} {s : Segment}
    (h : t.contains (p.child s) = true) : t.contains p = true := by
  obtain ⟨n, found⟩ := Option.isSome_iff_exists.1 h
  rw [node?_child] at found
  obtain ⟨m, above, _⟩ := Option.bind_eq_some_iff.1 found
  rw [contains, above]
  rfl

/-- A node lists the names at which there are nodes below it. -/
theorem mem_childNames_iff {t : Tree} {p : Path} {n : Node} (found : t.node? p = some n)
    (s : Segment) : s ∈ n.childNames ↔ t.contains (p.child s) = true := by
  rw [contains, node?_child, found, ← Node.isSome_child?]
  rfl

/-- A tree in which no node lists a name twice has a coherent table. -/
theorem coherent_table {t : Tree} (h : t.Distinct) : t.table.Coherent where
  root := by rw [contains_table, contains_root]
  parent := by
    intro p q stored parent
    obtain ⟨s, rfl⟩ := Path.parent?_eq_some_iff.1 parent
    rw [contains_table] at stored ⊢
    exact contains_of_contains_child stored
  nodup := by
    intro p row found
    obtain ⟨n, stored, rfl⟩ := Option.map_eq_some_iff.1 found
    exact (h p n stored).map Subtype.val_injective
  listed_iff := by
    intro p row found name
    obtain ⟨n, stored, rfl⟩ := Option.map_eq_some_iff.1 found
    simp only [contains_table]
    constructor
    · intro listed
      obtain ⟨s, mem, rfl⟩ := List.mem_map.1 listed
      exact ⟨s.property, (mem_childNames_iff stored s).1 mem⟩
    · rintro ⟨plain, below⟩
      exact List.mem_map.2 ⟨_, (mem_childNames_iff stored _).2 below, rfl⟩

/-- A run of tables starts with the table of the tree that a run of trees starts with. -/
theorem table_start (source : Option Json) : (start source).map table = Table.start source := by
  cases source with
  | none => exact congrArg Except.ok table_empty
  | some document => exact table_ofJson document

/-- Calls on the flat table, from the table of the root alone or of any document, come to exactly
one table: that of the tree after the same calls. It is coherent, and the listing of each path is
what is stored right below. -/
theorem run_coherent {source : Option Json} {t : Tree} (started : start source = .ok t)
    (calls : List TreeCall) :
    (∀ T, (∃ T₀, Table.start source = .ok T₀ ∧ T₀.Runs calls T) ↔ T = (calls.foldl call t).table) ∧
    (calls.foldl call t).table.Coherent ∧
    ∀ p, (calls.foldl call t).table.ListsChildren p ∧
      (calls.foldl call t).table.contains p = (calls.foldl call t).contains p ∧
      (calls.foldl call t).table.childPaths p = (calls.foldl call t).childPaths p := by
  have distinct : (calls.foldl call t).Distinct :=
    distinct_foldl_call calls (distinct_start started)
  have coherent : (calls.foldl call t).table.Coherent := coherent_table distinct
  refine ⟨?_, coherent, ?_⟩
  · intro T
    have tables : Table.start source = .ok t.table := by
      rw [← table_start, started]
      rfl
    rw [← runs_iff]
    constructor
    · rintro ⟨T₀, first, runs⟩
      rw [tables, Except.ok.injEq] at first
      rw [first]
      exact runs
    · intro runs
      exact ⟨t.table, tables, runs⟩
  · intro p
    exact ⟨coherent.listsChildren p, contains_table _ p, childPaths_table _ p⟩

/-- Members that are empty, climb, go down several steps or start at the root. -/
def strayDocument : Json :=
  .object [("a", .object [("b/../c//d", .object [("x", .integer 1)]), ("/a/e", .object []),
    ("..", .object [("y", .bool true)])]), ("", .object [("z", .null)])]

/-- A run whose last three calls change nothing, and two of them fail. -/
def strayCalls : List TreeCall :=
  [.insertNode "/p/./q", .setProperty "/p" "n" (.long 1), .removeNode "/a/c", .removeNode "/a/b",
    .removeNode "/", .insertNode "/../r"]

/-- Members named by paths are loaded elsewhere, and after that run two children of the root are
left. -/
theorem run_coherent_stray :
    ∃ t, start (some strayDocument) = .ok t ∧ (strayCalls.foldl call t).table.Coherent ∧
      ((strayCalls.foldl call t).childPaths Path.root).map Path.text = ["/a", "/p"] := by
  have outcome : ((start (some strayDocument)).toOption.map fun t =>
      ((strayCalls.foldl call t).childPaths Path.root).map Path.text) = some ["/a", "/p"] := by
    decide +kernel
  cases started : start (some strayDocument) with
  | error e => simp [started, Except.toOption] at outcome
  | ok t =>
    rw [started] at outcome
    exact ⟨t, rfl, (run_coherent started strayCalls).2.1, Option.some.inj outcome⟩

end Tree
end TreeAdapter
