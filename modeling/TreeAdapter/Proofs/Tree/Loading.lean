import TreeAdapter.Proofs.NameMap
import TreeAdapter.Proofs.Tree.Member
import TreeAdapter.Proofs.Tree.Simulation

/-!
# What a document stores

The loader, `load_node`, goes through a document member by member and writes into a flat table. The
document itself is read here by walks: `Json.nodeAt?` is the object that a walk down the names leads
to.

* `Table.exists_loadMembers_iff` — loading comes to an end on the documents that are acceptable
* `Table.loads_loadMembers` — the rows after the members of a node are loaded, and which rows stay
* `Tree.ofJson_faithful` — the nodes, listings and properties of a loaded tree are the objects,
  their object members and their other members
-/

namespace TreeAdapter
set_option autoImplicit false

open TreeAdapter.Tree (isNodeDocument)

/-! ## Documents as they stand -/

namespace Json

/-- A member that becomes the node one step down. -/
def NodeAt (members : List (String × Json)) (s : Segment) (inner : List (String × Json)) : Prop :=
  (s.val, object inner) ∈ members ∧ isNodeDocument (object inner) = true

/-- The members of the node that a walk leads to. -/
def nodeAt? : List Segment → List (String × Json) → Option (List (String × Json))
  | [], members => some members
  | s :: rest, members =>
    match member? members s.val with
    | some (object inner) => if isNodeDocument (object inner) then nodeAt? rest inner else none
    | _ => none

/-- From here down, a member that becomes a node has a plain segment as its name. -/
inductive NodesPlain : List (String × Json) → Prop where
  | intro {members : List (String × Json)}
      (plain : ∀ m ∈ members, isNodeDocument m.2 = true → IsPlainSegment m.1)
      (below : ∀ s inner, NodeAt members s inner → NodesPlain inner) : NodesPlain members

/-- Every member of every node can be loaded. -/
def Accepted (members : List (String × Json)) : Prop :=
  ∀ walk inner, nodeAt? walk members = some inner → ∀ m ∈ inner, Acceptable m.2

/-- Members are taken as loading takes them: a node with the members inside it, or a property. -/
@[elab_as_elim]
theorem members_induction {motive : List (String × Json) → Prop} (nil : motive [])
    (node : ∀ name inner rest, isNodeDocument (object inner) = true → motive inner →
      motive rest → motive ((name, object inner) :: rest))
    (property : ∀ name value rest, isNodeDocument value = false → motive rest →
      motive ((name, value) :: rest)) (members : List (String × Json)) : motive members := by
  match members with
  | [] => exact nil
  | (name, value) :: rest =>
    have others : motive rest := members_induction nil node property rest
    cases is : isNodeDocument value with
    | false => exact property name value rest is others
    | true =>
      cases value with
      | object inner =>
        have inside : motive inner := members_induction nil node property inner
        exact node name inner rest is inside others
      | _ => cases is

section Walks
variable {members rest : List (String × Json)} {m : String × Json} {s : Segment}
  {inner : List (String × Json)}

/-- A node stands at a name in a list if the first member is that node or a later one is. -/
theorem nodeAt_cons : NodeAt (m :: rest) s inner ↔
    (m = (s.val, object inner) ∧ isNodeDocument (object inner) = true) ∨ NodeAt rest s inner := by
  rw [NodeAt, NodeAt, List.mem_cons, or_and_right, eq_comm]

/-- A property is no node, under any name. -/
theorem nodeAt_cons_of_property {name : String} {value : Json}
    (property : isNodeDocument value = false) :
    NodeAt ((name, value) :: rest) s inner ↔ NodeAt rest s inner := by
  rw [nodeAt_cons, or_iff_right]
  rintro ⟨eq, node⟩
  cases eq
  simp [property] at node

/-- Where a name has a node, a walk through it goes on inside. -/
theorem nodeAt?_of_nodeAt (once : (members.map (·.1)).Nodup) (h : NodeAt members s inner)
    (walk : List Segment) : nodeAt? (s :: walk) members = nodeAt? walk inner := by
  rw [nodeAt?, (member?_eq_some_iff once).2 h.1]
  simp only [h.2, if_true]

theorem nodeAt?_of_none (h : ∀ inner, ¬NodeAt members s inner) (walk : List Segment) :
    nodeAt? (s :: walk) members = none := by
  rw [nodeAt?]
  split
  · next inner found =>
    rw [if_neg]
    exact fun node => h inner ⟨mem_of_member? found, node⟩
  · rfl

theorem NodesPlain.child (h : NodesPlain members) (child : NodeAt members s inner) :
    NodesPlain inner := by
  cases h with
  | intro _ below => exact below s inner child

theorem NodesPlain.tail (h : NodesPlain (m :: rest)) : NodesPlain rest := by
  cases h with
  | intro plain below =>
    refine .intro ?_ ?_
    · exact fun n mem => plain n (List.mem_cons_of_mem m mem)
    · exact fun s inner child => below s inner (nodeAt_cons.2 (.inr child))

/-- A plain node has a name that is a segment. -/
theorem NodesPlain.head {name : String} (h : NodesPlain ((name, object inner) :: rest))
    (node : isNodeDocument (object inner) = true) : ∃ s : Segment, s.val = name := by
  cases h with
  | intro plain _ => exact ⟨⟨name, plain _ List.mem_cons_self node⟩, rfl⟩

/-- A document is accepted by its members and by the documents below them. -/
theorem accepted_iff (once : (members.map (·.1)).Nodup) :
    Accepted members ↔
      (∀ m ∈ members, Acceptable m.2) ∧ ∀ s inner, NodeAt members s inner → Accepted inner := by
  constructor
  · intro all
    refine ⟨all [] members rfl, ?_⟩
    intro s inner child walk found leads
    exact all (s :: walk) found (by rw [nodeAt?_of_nodeAt once child, leads])
  · rintro ⟨here, below⟩ walk found leads
    cases walk with
    | nil =>
      cases leads
      exact here
    | cons s walk =>
      by_cases child : ∃ inner, NodeAt members s inner
      · obtain ⟨inner, child⟩ := child
        rw [nodeAt?_of_nodeAt once child] at leads
        exact below s inner child walk found leads
      · rw [nodeAt?_of_none (not_exists.1 child)] at leads
        cases leads

/-- With a node in front, acceptance asks the same of its members and of the rest. -/
theorem accepted_cons_node (once : ((s.val, object inner) :: rest |>.map (·.1)).Nodup)
    (node : isNodeDocument (object inner) = true) :
    Accepted ((s.val, object inner) :: rest) ↔ Accepted inner ∧ Accepted rest := by
  have passes : Acceptable (object inner) := fun typed => absurd (node.symm.trans typed) (by decide)
  rw [accepted_iff once, accepted_iff (List.nodup_cons.1 once).2, List.forall_mem_cons]
  constructor
  · rintro ⟨⟨_, others⟩, below⟩
    have inside : Accepted inner := below s inner (nodeAt_cons.2 (.inl ⟨rfl, node⟩))
    exact ⟨inside, others, fun k found child => below k found (nodeAt_cons.2 (.inr child))⟩
  · rintro ⟨inside, others, below⟩
    refine ⟨⟨passes, others⟩, ?_⟩
    intro k found child
    rcases nodeAt_cons.1 child with ⟨eq, _⟩ | child
    · have same : inner = found := Json.object.inj (Prod.mk.inj eq).2
      rwa [← same]
    · exact below k found child

/-- With a property in front, acceptance asks that its value is acceptable. -/
theorem accepted_cons_property {name : String} {value : Json}
    (once : ((name, value) :: rest |>.map (·.1)).Nodup) (property : isNodeDocument value = false) :
    Accepted ((name, value) :: rest) ↔ Acceptable value ∧ Accepted rest := by
  rw [accepted_iff once, accepted_iff (List.nodup_cons.1 once).2, List.forall_mem_cons, and_assoc]
  simp only [nodeAt_cons_of_property property]

/-- What holds of a whole document holds of the nodes in it. -/
theorem Distinct.of_nodeAt? {walk : List Segment} {members inner : List (String × Json)}
    (h : (Json.object members).Distinct) (leads : Json.nodeAt? walk members = some inner) :
    (Json.object inner).Distinct := by
  induction walk generalizing members with
  | nil =>
    cases leads
    exact h
  | cons s walk ih =>
    by_cases child : ∃ inner, NodeAt members s inner
    · obtain ⟨first, child⟩ := child
      rw [nodeAt?_of_nodeAt h.once child] at leads
      exact ih (h.member child.1) leads
    · rw [nodeAt?_of_none (not_exists.1 child)] at leads
      cases leads

end Walks
end Json

/-! ## When loading comes to an end -/

namespace Table

/-- A node member is loaded by making its node, then its members, then the rest. -/
theorem loadMembers_node_iff {T U : Table} {p : Path} {s : Segment}
    {inner rest : List (String × Json)} (node : isNodeDocument (.object inner) = true) :
    T.loadMembers p ((s.val, .object inner) :: rest) = .ok U ↔
      ∃ V, (T.ensure (p.child s)).loadMembers (p.child s) inner = .ok V ∧
        V.loadMembers p rest = .ok U := by
  rw [loadMembers, if_pos node, Path.join_plain]
  simp only [loadNode]
  exact bind_eq_ok

/-- A property member is loaded by reading its value, setting it unless it is `null`, then the rest.
-/
theorem loadMembers_property_iff {T U : Table} {p : Path} {name : String} {value : Json}
    {rest : List (String × Json)} (property : isNodeDocument value = false) :
    T.loadMembers p ((name, value) :: rest) = .ok U ↔
      ∃ o, Tree.propertyOf value = .ok o ∧
        (match o with
        | some v => T.modify p (Row.update (·.insert name v))
        | none => T).loadMembers p rest = .ok U := by
  rw [loadMembers, if_neg (by simp [property]), bind_eq_ok]
  refine exists_congr fun o => and_congr_right fun _ => ?_
  cases o <;> rfl

/-- Loading comes to an end exactly when every member of every node can be loaded, into whatever
table. -/
theorem exists_loadMembers_iff {members : List (String × Json)}
    (distinct : (Json.object members).Distinct) (plain : Json.NodesPlain members) (T : Table)
    (p : Path) : (∃ U, T.loadMembers p members = .ok U) ↔ Json.Accepted members := by
  induction members using Json.members_induction generalizing T p with
  | nil =>
    rw [Json.accepted_iff distinct.once]
    refine iff_of_true ⟨T, rfl⟩ ⟨by simp, ?_⟩
    rintro s inner ⟨mem, _⟩
    cases mem
  | node name inner rest node ihInner ihRest =>
    obtain ⟨s, rfl⟩ := plain.head node
    have child : Json.NodeAt ((s.val, .object inner) :: rest) s inner :=
      ⟨List.mem_cons_self, node⟩
    have first := ihInner (distinct.member List.mem_cons_self) (plain.child child)
    have later := ihRest distinct.tail plain.tail
    rw [Json.accepted_cons_node distinct.once node]
    simp only [loadMembers_node_iff node]
    constructor
    · rintro ⟨U, V, inside, others⟩
      exact ⟨(first _ _).1 ⟨V, inside⟩, (later _ _).1 ⟨U, others⟩⟩
    · rintro ⟨inside, others⟩
      obtain ⟨V, loaded⟩ := (first (T.ensure (p.child s)) (p.child s)).2 inside
      obtain ⟨U, loaded'⟩ := (later V p).2 others
      exact ⟨U, V, loaded, loaded'⟩
  | property name value rest property ih =>
    have later := ih distinct.tail plain.tail
    rw [Json.accepted_cons_property distinct.once property,
      ← Tree.exists_propertyOf_iff (distinct.member List.mem_cons_self) property]
    simp only [loadMembers_property_iff property]
    constructor
    · rintro ⟨U, o, holds, others⟩
      exact ⟨⟨o, holds⟩, (later _ _).1 ⟨U, others⟩⟩
    · rintro ⟨⟨o, holds⟩, others⟩
      obtain ⟨U, loaded⟩ := (later _ p).2 others
      exact ⟨U, o, holds, loaded⟩

end Table

/-! ## What loading writes -/

namespace Row

/-- A row with one more member: its name listed, or its property put in when it holds one. -/
def add (row : Row) (m : String × Json) : Row :=
  if isNodeDocument m.2 then row.list m.1
  else match Tree.propertyOf m.2 with
    | .ok (some v) => row.update (·.insert m.1 v)
    | _ => row

/-- The row of a node with these members. -/
def ofMembers (members : List (String × Json)) : Row :=
  members.foldl add empty

theorem add_node {row : Row} {name : String} {value : Json} (node : isNodeDocument value = true) :
    row.add (name, value) = row.list name := by
  rw [add, if_pos node]

/-- A member that is no node puts its property in, when it holds one. -/
theorem add_property (row : Row) (name : String) {value : Json}
    (property : isNodeDocument value = false) :
    (∃ v, Tree.propertyOf value = .ok (some v) ∧
      row.add (name, value) = row.update (·.insert name v)) ∨
    ((∀ v, Tree.propertyOf value ≠ .ok (some v)) ∧ row.add (name, value) = row) := by
  have unlisted : ¬isNodeDocument value = true := by simp [property]
  rw [add, if_neg unlisted]
  split
  · next v holds => exact .inl ⟨v, holds, rfl⟩
  · next unset => exact .inr ⟨unset, rfl⟩

/-- The children of a row are its node members in the order of the document. -/
theorem children_foldl_add (members : List (String × Json)) (row : Row) :
    (members.foldl add row).children =
      row.children ++ (members.filter (isNodeDocument ·.2)).map (·.1) := by
  induction members generalizing row with
  | nil => simp
  | cons m rest ih =>
    obtain ⟨name, value⟩ := m
    rw [List.foldl_cons, ih]
    cases is : isNodeDocument value with
    | true => simp [add_node is, is, list]
    | false =>
      have same : (row.add (name, value)).children = row.children := by
        rcases add_property row name is with ⟨v, _, eq⟩ | ⟨_, eq⟩
        · rw [eq]; rfl
        · rw [eq]
      simp [same, is]

/-- A member adds the property that its value reads as, under its own name, and takes none away. -/
theorem get?_add {row : Row} {m : String × Json} (new : row.properties.get? m.1 = none)
    {name : String} {v : StoredValue} :
    (row.add m).properties.get? name = some v ↔ row.properties.get? name = some v ∨
      m.1 = name ∧ isNodeDocument m.2 = false ∧ Tree.propertyOf m.2 = .ok (some v) := by
  obtain ⟨key, value⟩ := m
  cases is : isNodeDocument value with
  | true => simp [add_node is, list]
  | false =>
    rcases add_property row key is with ⟨w, holds, eq⟩ | ⟨unset, eq⟩
    · rw [eq, update, NameMap.get?_insert, holds]
      by_cases here : key = name
      · subst here
        simp [new]
      · simp [here]
    · simp [eq, unset]

/-- The members of a node, each name once, leave in its row the properties they hold. -/
theorem get?_foldl_add {members : List (String × Json)} (once : (members.map (·.1)).Nodup)
    {row : Row} (new : ∀ m ∈ members, row.properties.get? m.1 = none) {name : String}
    {v : StoredValue} :
    (members.foldl add row).properties.get? name = some v ↔
      row.properties.get? name = some v ∨
      ∃ value, (name, value) ∈ members ∧ isNodeDocument value = false ∧
        Tree.propertyOf value = .ok (some v) := by
  induction members generalizing row with
  | nil => simp
  | cons m rest ih =>
    obtain ⟨first, others⟩ := List.nodup_cons.1 once
    have here : row.properties.get? m.1 = none := new m List.mem_cons_self
    have later : ∀ n ∈ rest, (row.add m).properties.get? n.1 = none := by
      intro n mem
      rw [Option.eq_none_iff_forall_ne_some]
      intro w found
      rcases (get?_add here).1 found with old | ⟨same, _⟩
      · rw [new n (List.mem_cons_of_mem m mem)] at old
        cases old
      · exact first (List.mem_map.2 ⟨n, mem, same.symm⟩)
    rw [List.foldl_cons, ih others later, get?_add here, or_assoc]
    refine or_congr_right ?_
    constructor
    · rintro (⟨rfl, holds⟩ | ⟨value, mem, holds⟩)
      · exact ⟨m.2, List.mem_cons_self, holds⟩
      · exact ⟨value, List.mem_cons_of_mem m mem, holds⟩
    · rintro ⟨value, mem, holds⟩
      rcases List.mem_cons.1 mem with rfl | mem
      · exact .inl ⟨rfl, holds⟩
      · exact .inr ⟨value, mem, holds⟩

end Row

namespace Table

/-- From `p` down the table stores the node of these members with all below it. -/
def Shows (T : Table) (p : Path) (members : List (String × Json)) : Prop :=
  ∀ walk : List Segment,
    T.row? ⟨p.segments ++ walk⟩ = (Json.nodeAt? walk members).map Row.ofMembers

/-- What the members of the node at `p` make of a table: its row is extended, what they name as
nodes is stored below, and all else stays. -/
structure Loads (T U : Table) (p : Path) (row : Row) (members : List (String × Json)) : Prop where
  own : U.row? p = some (members.foldl Row.add row)
  below : ∀ s inner, Json.NodeAt members s inner → U.Shows (p.child s) inner
  apart : ∀ q, q ≠ p → (∀ s inner, Json.NodeAt members s inner →
    ¬(p.child s).segments <+: q.segments) → U.row? q = T.row? q

/-- A table that loaded the members of a vacant place shows them there. -/
theorem Loads.shows {T U : Table} {p : Path} {members : List (String × Json)}
    (h : T.Loads U p Row.empty members) (once : (members.map (·.1)).Nodup)
    (vacant : ∀ s, T.Vacant (p.child s)) : U.Shows p members := by
  intro walk
  cases walk with
  | nil =>
    rw [List.append_nil]
    exact h.own
  | cons s walk =>
    rw [← Path.segments_child_append]
    by_cases child : ∃ inner, Json.NodeAt members s inner
    · obtain ⟨inner, child⟩ := child
      rw [Json.nodeAt?_of_nodeAt once child]
      exact h.below s inner child walk
    · have beside (k : Segment) (inner : List (String × Json))
          (at_k : Json.NodeAt members k inner) :
          ¬(p.child k).segments <+: (p.child s).segments ++ walk := by
        intro within
        rw [Path.child_prefix_iff] at within
        exact child ⟨inner, within ▸ at_k⟩
      rw [Json.nodeAt?_of_none (not_exists.1 child),
        h.apart _ (Path.below_child_ne p s walk) beside, vacant s walk]
      rfl

/-- The table right before the members of a new node are loaded. -/
theorem row?_ensure_child {T : Table} {p : Path} {row : Row} (found : T.row? p = some row)
    {s : Segment} (vacant : T.Vacant (p.child s)) (q : Path) :
    (T.ensure (p.child s)).row? q =
      if q = p.child s then some Row.empty
      else if q = p then some (row.list s.val) else T.row? q := by
  have absent : ¬T.contains (p.child s) = true := by
    have missing := vacant []
    rw [List.append_nil] at missing
    simp [contains, missing]
  have present : T.contains p = true := by
    rw [contains, found]
    rfl
  rw [ensure_child absent, ensure_of_contains present]
  show (if q = p.child s then some Row.empty
    else if q = p then (T.row? q).map (Row.list s.val) else T.row? q) = _
  by_cases here : q = p
  · rw [here, found]
    rfl
  · rw [if_neg here, if_neg here]

/-- A member that is no node changes the row of its node only. -/
theorem exists_loadMembers_property {T U : Table} {p : Path} {row : Row} {name : String}
    {value : Json} {rest : List (String × Json)} (property : isNodeDocument value = false)
    (found : T.row? p = some row) (loaded : T.loadMembers p ((name, value) :: rest) = .ok U) :
    ∃ V : Table, V.row? p = some (row.add (name, value)) ∧ (∀ q, q ≠ p → V.row? q = T.row? q) ∧
      V.loadMembers p rest = .ok U := by
  obtain ⟨o, holds, later⟩ := (loadMembers_property_iff property).1 loaded
  rcases row.add_property name property with ⟨v, put, eq⟩ | ⟨unset, eq⟩
  · obtain rfl : some v = o := Except.ok.inj (put.symm.trans holds)
    refine ⟨_, ?_, ?_, later⟩
    · rw [row?_modify, if_pos rfl, found, eq]
      rfl
    · intro q away
      rw [row?_modify, if_neg away]
  · cases o with
    | some v => exact absurd holds (unset v)
    | none => exact ⟨T, by rw [found, eq], fun _ _ => rfl, later⟩

/-- Below a node that was just made there is nothing. -/
theorem vacant_ensure_child {T : Table} {p : Path} {row : Row} (found : T.row? p = some row)
    {s : Segment} (vacant : T.Vacant (p.child s)) (k : Segment) :
    (T.ensure (p.child s)).Vacant ((p.child s).child k) := by
  intro walk
  rw [row?_ensure_child found vacant, if_neg (Path.below_child_ne _ k walk),
    Path.segments_child_append, if_neg (Path.below_child_ne p s _)]
  exact vacant (k :: walk)

/-- What is not below a child stays when the child is loaded, except for the name in the row of the
node. -/
theorem Loads.row?_of_beside {T V : Table} {p : Path} {row : Row} (found : T.row? p = some row)
    {s : Segment} {inner : List (String × Json)} (vacant : T.Vacant (p.child s))
    (inside : (T.ensure (p.child s)).Loads V (p.child s) Row.empty inner) {q : Path}
    (beside : ¬(p.child s).segments <+: q.segments) :
    V.row? q = if q = p then some (row.list s.val) else T.row? q := by
  have ne : q ≠ p.child s := by
    rintro rfl
    exact beside List.prefix_rfl
  rw [inside.apart q ne, row?_ensure_child found vacant, if_neg ne]
  intro k _ _ within
  exact beside ((List.prefix_append _ _).trans within)

/-- A child that is stored, and then the members behind it. -/
theorem Loads.cons_node {T V U : Table} {p : Path} {row : Row} {s : Segment}
    {inner rest : List (String × Json)} (node : isNodeDocument (.object inner) = true)
    (new : ∀ k found, Json.NodeAt rest k found → k ≠ s) (shown : V.Shows (p.child s) inner)
    (outside : ∀ q : Path, ¬(p.child s).segments <+: q.segments →
      V.row? q = if q = p then some (row.list s.val) else T.row? q)
    (others : V.Loads U p (row.list s.val) rest) :
    T.Loads U p row ((s.val, .object inner) :: rest) := by
  refine ⟨?_, ?_, ?_⟩
  · rw [List.foldl_cons, Row.add_node node]
    exact others.own
  · intro k found at_k
    rcases Json.nodeAt_cons.1 at_k with ⟨eq, _⟩ | at_k
    · obtain ⟨named, same⟩ := Prod.mk.inj eq
      obtain rfl : s = k := Subtype.ext named
      obtain rfl : inner = found := Json.object.inj same
      intro walk
      rw [others.apart _ (Path.below_child_ne p s walk), shown walk]
      intro k found at_k within
      exact new k found at_k (Path.child_prefix_iff.1 within)
    · exact others.below k found at_k
  · intro q ne beside
    have later : ∀ k found, Json.NodeAt rest k found → ¬(p.child k).segments <+: q.segments :=
      fun k found at_k => beside k found (Json.nodeAt_cons.2 (.inr at_k))
    have first : ¬(p.child s).segments <+: q.segments :=
      beside s inner (Json.nodeAt_cons.2 (.inl ⟨rfl, node⟩))
    rw [others.apart q ne later, outside q first, if_neg ne]

/-- A property in front changes the row of its node only, so what is below is loaded as before. -/
theorem Loads.cons_property {T V U : Table} {p : Path} {row : Row} {name : String} {value : Json}
    {rest : List (String × Json)} (property : isNodeDocument value = false)
    (away : ∀ q, q ≠ p → V.row? q = T.row? q)
    (others : V.Loads U p (row.add (name, value)) rest) :
    T.Loads U p row ((name, value) :: rest) := by
  refine ⟨others.own, ?_, ?_⟩
  · intro s inner child
    exact others.below s inner ((Json.nodeAt_cons_of_property property).1 child)
  · intro q ne beside
    have later : ∀ s inner, Json.NodeAt rest s inner → ¬(p.child s).segments <+: q.segments :=
      fun s inner child => beside s inner ((Json.nodeAt_cons_of_property property).2 child)
    rw [others.apart q ne later, away q ne]

/-- Members are loaded into a stored node as long as nothing is stored where they put nodes. -/
theorem loads_loadMembers {members : List (String × Json)}
    (distinct : (Json.object members).Distinct) (plain : Json.NodesPlain members) {T U : Table}
    {p : Path} {row : Row} (found : T.row? p = some row)
    (vacant : ∀ s inner, Json.NodeAt members s inner → T.Vacant (p.child s))
    (loaded : T.loadMembers p members = .ok U) : T.Loads U p row members := by
  induction members using Json.members_induction generalizing T U p row with
  | nil =>
    cases loaded
    refine ⟨found, ?_, fun _ _ _ => rfl⟩
    rintro s inner ⟨mem, _⟩
    cases mem
  | property name value rest property ih =>
    obtain ⟨V, here, away, later⟩ := exists_loadMembers_property property found loaded
    have vacant' : ∀ s inner, Json.NodeAt rest s inner → V.Vacant (p.child s) := by
      intro s inner child walk
      rw [away _ (Path.below_child_ne p s walk)]
      exact vacant s inner ((Json.nodeAt_cons_of_property property).2 child) walk
    exact .cons_property property away (ih distinct.tail plain.tail here vacant' later)
  | node name inner rest node ihInner ihRest =>
    obtain ⟨s, rfl⟩ := plain.head node
    have child : Json.NodeAt ((s.val, .object inner) :: rest) s inner :=
      ⟨List.mem_cons_self, node⟩
    have new (k : Segment) (other : List (String × Json)) (at_k : Json.NodeAt rest k other) :
        k ≠ s := by
      rintro rfl
      exact (List.nodup_cons.1 distinct.once).1 (List.mem_map.2 ⟨_, at_k.1, rfl⟩)
    have free : T.Vacant (p.child s) := vacant s inner child
    have lower := vacant_ensure_child found free
    obtain ⟨V, first, later⟩ := (loadMembers_node_iff node).1 loaded
    have inside : (T.ensure (p.child s)).Loads V (p.child s) Row.empty inner := by
      have start : (T.ensure (p.child s)).row? (p.child s) = some Row.empty := by
        rw [row?_ensure_child found free, if_pos rfl]
      exact ihInner (distinct.member List.mem_cons_self) (plain.child child) start
        (fun k _ _ => lower k) first
    have outside (q : Path) (beside : ¬(p.child s).segments <+: q.segments) :
        V.row? q = if q = p then some (row.list s.val) else T.row? q :=
      inside.row?_of_beside found free beside
    have others : V.Loads U p (row.list s.val) rest := by
      refine ihRest distinct.tail plain.tail ?_ ?_ later
      · rw [outside p (Path.not_child_prefix p s), if_pos rfl]
      · intro k other at_k walk
        have beside : ¬(p.child s).segments <+: (p.child k).segments ++ walk := by
          rw [Path.child_prefix_iff]
          exact (new k other at_k).symm
        rw [outside _ beside, if_neg (Path.below_child_ne p k walk)]
        exact vacant k other (Json.nodeAt_cons.2 (.inr at_k)) walk
    have shown : V.Shows (p.child s) inner :=
      inside.shows (distinct.member List.mem_cons_self).once lower
    exact .cons_node node new shown outside others

theorem row?_empty_of_ne {q : Path} (h : q ≠ Path.root) : empty.row? q = none := if_neg h

/-- An accepted document of plain names is shown by its tree from the root down. -/
theorem shows_ofJson {members : List (String × Json)} (distinct : (Json.object members).Distinct)
    (plain : Json.NodesPlain members) {T : Table} (loaded : ofJson (.object members) = .ok T) :
    T.Shows Path.root members := by
  have vacant (s : Segment) : Table.empty.Vacant (Path.root.child s) := by
    intro walk
    exact row?_empty_of_ne (Path.below_child_ne Path.root s walk)
  rw [ofJson, loadNode, ensure_of_contains rfl] at loaded
  have loads : Table.empty.Loads T Path.root Row.empty members :=
    loads_loadMembers distinct plain rfl (fun s _ _ => vacant s) loaded
  exact loads.shows distinct.once vacant

end Table

namespace Tree

/-- A document of plain names is accepted exactly when each property value in it is acceptable. -/
theorem exists_ofJson_iff {members : List (String × Json)}
    (distinct : (Json.object members).Distinct) (plain : Json.NodesPlain members) :
    (∃ t, ofJson (.object members) = .ok t) ↔ Json.Accepted members := by
  have flat : (∃ t, ofJson (.object members) = .ok t) ↔
      ∃ T, Table.ofJson (.object members) = .ok T := by
    rw [← table_ofJson]
    cases ofJson (.object members) with
    | error e => exact iff_of_false (by simp) (by simp [Except.map])
    | ok t => exact iff_of_true ⟨t, rfl⟩ ⟨t.table, rfl⟩
  rw [flat, Table.ofJson, Table.loadNode]
  exact Table.exists_loadMembers_iff distinct plain _ _

section Rows
variable {t : Tree} {p : Path} {n : Node} {inner : List (String × Json)}

/-- The child paths of a node that shows members are their names, in order, below its path. -/
theorem childPaths_of_row (found : t.node? p = some n) (row : n.row = Row.ofMembers inner) :
    (t.childPaths p).map some = (inner.filter (isNodeDocument ·.2)).map (p.join ·.1) := by
  have names : n.childNames.map (·.val) = (inner.filter (isNodeDocument ·.2)).map (·.1) := by
    have listed := Row.children_foldl_add inner Row.empty
    rw [← Row.ofMembers, ← row] at listed
    exact listed
  calc
    (t.childPaths p).map some = n.childNames.map fun s => some (p.child s) := by
      rw [childPaths, found, List.map_map]
      rfl
    _ = n.childNames.map fun s => p.join s.val := by
      exact List.map_congr_left fun s _ => (Path.join_plain p s).symm
    _ = (n.childNames.map (·.val)).map p.join := by rw [List.map_map]; rfl
    _ = (inner.filter (isNodeDocument ·.2)).map (p.join ·.1) := by rw [names, List.map_map]; rfl

/-- The properties of a node that shows members are the members that read as properties. -/
theorem property?_iff_of_row (distinct : (Json.object inner).Distinct) (found : t.node? p = some n)
    (row : n.row = Row.ofMembers inner) {name : String} {v : StoredValue} :
    t.property? p name = some v ↔
      ∃ value, (name, value) ∈ inner ∧ isNodeDocument value = false ∧ PropertyAs value v := by
  have same : n.properties = (Row.ofMembers inner).properties := congrArg Row.properties row
  have nothing : ¬Row.empty.properties.get? name = some v := by
    simp [Row.empty, NameMap.empty, NameMap.get?]
  rw [property?, found, Option.bind_some, same, Row.ofMembers,
    Row.get?_foldl_add distinct.once (fun _ _ => rfl), or_iff_right nothing]
  refine exists_congr fun value => and_congr_right fun mem => and_congr_right fun _ => ?_
  exact propertyOf_eq_ok_iff (distinct.member mem)

end Rows

/-- A document in which each object has each name once and what becomes a node has a plain name:
it can be loaded exactly when each member of each node is acceptable, and then the tree has a node
where a walk leads to an object, with that object's object members as children in their order and
what its other members stand for as properties. -/
theorem ofJson_faithful {members : List (String × Json)}
    (distinct : (Json.object members).Distinct) (plain : Json.NodesPlain members) :
    ((∃ t, ofJson (.object members) = .ok t) ↔ Json.Accepted members) ∧
    ∀ t, ofJson (.object members) = .ok t → ∀ p : Path,
      t.contains p = (Json.nodeAt? p.segments members).isSome ∧
      ∀ inner, Json.nodeAt? p.segments members = some inner →
        (t.childPaths p).map some = (inner.filter (isNodeDocument ·.2)).map (p.join ·.1) ∧
        ∀ name v, t.property? p name = some v ↔
          ∃ value, (name, value) ∈ inner ∧ isNodeDocument value = false ∧ PropertyAs value v := by
  refine ⟨exists_ofJson_iff distinct plain, ?_⟩
  intro t loaded p
  have rows : (t.node? p).map Node.row =
      (Json.nodeAt? p.segments members).map Row.ofMembers := by
    have tables : Table.ofJson (.object members) = .ok t.table := by
      rw [← table_ofJson, loaded]
      rfl
    exact Table.shows_ofJson distinct plain tables p.segments
  constructor
  · rw [contains, ← Option.isSome_map (f := Node.row), rows, Option.isSome_map]
  · intro inner leads
    rw [leads] at rows
    obtain ⟨n, found, row⟩ := Option.map_eq_some_iff.1 rows
    constructor
    · exact childPaths_of_row found row
    · intro name v
      exact property?_iff_of_row (distinct.of_nodeAt? leads) found row

/-- A page with a date, a child, and an array with a hole. -/
def pageMembers : List (String × Json) :=
  [("when", .object [("@type", .string "date"), ("value", .string "2024-05-01T10:00:00+02:00")]),
    ("first", .object []), ("tags", .array [.string "x", .null, .integer 2])]

theorem ofJson_faithful_page :
    let members : List (String × Json) := [("page", .object pageMembers), ("old", .null)]
    let page : Segment := ⟨"page", by decide⟩
    (Json.object members).Distinct ∧ Json.NodesPlain members ∧
    ∃ t, ofJson (.object members) = .ok t ∧
      (t.childPaths (Path.root.child page)).map some = [(Path.root.child page).join "first"] ∧
      t.property? (Path.root.child page) "tags" = some (.multi [.string "x", .long 2]) := by
  intro members page
  have distinct : (Json.object members).Distinct := by
    have same : (Json.object members).merged = .object members := by
      simp [members, pageMembers, Json.merged, Json.mergedMembers, Json.mergedItems, Json.setMember]
    rw [← same]
    exact Json.distinct_merged _
  have nothing : Json.NodesPlain [] := by
    refine .intro (by simp) ?_
    rintro s inner ⟨mem, _⟩
    cases mem
  have first : Json.NodesPlain pageMembers := by
    refine .intro (by decide) ?_
    rintro s inner ⟨mem, node⟩
    simp only [pageMembers, List.mem_cons, Prod.mk.injEq, Json.object.injEq, List.not_mem_nil,
      reduceCtorEq, and_false, or_false] at mem
    rcases mem with ⟨_, rfl⟩ | ⟨_, rfl⟩
    · cases node
    · exact nothing
  have plain : Json.NodesPlain members := by
    refine .intro (by decide) ?_
    rintro s inner ⟨mem, _⟩
    simp only [members, List.mem_cons, Prod.mk.injEq, Json.object.injEq, List.not_mem_nil,
      reduceCtorEq, and_false, or_false] at mem
    rw [mem.2]
    exact first
  have accepted : (ofJson (.object members)).toOption.isSome = true := by decide +kernel
  obtain ⟨t, found⟩ := Option.isSome_iff_exists.1 accepted
  have loaded : ofJson (.object members) = .ok t := toOption_eq_some.1 found
  have leads : Json.nodeAt? (Path.root.child page).segments members = some pageMembers := rfl
  obtain ⟨_, faithful⟩ := ofJson_faithful distinct plain
  obtain ⟨_, rows⟩ := faithful t loaded (Path.root.child page)
  have stored := rows pageMembers leads
  refine ⟨distinct, plain, t, loaded, ?_, ?_⟩
  · rw [stored.1]
    rfl
  · refine (stored.2 "tags" _).2 ⟨_, by simp [pageMembers]; rfl, rfl, .array ?_⟩
    exact .cons (.string "x") (.cons (.long 2) .nil)

end Tree
end TreeAdapter
