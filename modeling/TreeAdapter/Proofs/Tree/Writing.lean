import TreeAdapter.Proofs.Tree.Insertion
import TreeAdapter.Proofs.Tree.Placement

/-!
# Loading member by member

What `load_node` does is to write the members of a document from front to back, each into the node
that its name leads to or that it is written in (`Tree.loadMembers_eq_foldlM`). What one write
changes (`Tree.write_cases`) carries over to a run of them: which nodes there are, which member
gives a property its value, and which rows stay.

* `Tree.ofJson_places` — which documents can be loaded under any names, what the tree holds then,
  and which members become children of the node that they are written in
-/

namespace TreeAdapter
set_option autoImplicit false

open TreeAdapter.Tree (isNodeDocument propertyOf)

/-! ## One write -/

namespace Tree

/-- The tree after a member: its node put in, and its property set. -/
def write (t : Tree) (m : Json.Member) : Except TreeError Tree :=
  if isNodeDocument m.value then
    match m.node.join m.name with
    | none => throw (.memberEscapesRoot m.node m.name)
    | some child => return t.ensure child
  else do
    match ← propertyOf m.value with
    | some property => return (t.ensure m.node).mapProperties (·.insert m.name property) m.node
    | none => return t.ensure m.node

theorem contains_mapProperties (t : Tree) (f : Properties → Properties) (p q : Path) :
    (t.mapProperties f p).contains q = t.contains q := by
  rw [← contains_table, table_mapProperties, Table.contains, Table.row?_modify, ← contains_table]
  split
  · rw [Option.isSome_map]
    rfl
  · rfl

/-- The properties of a node are those in its row. -/
theorem property?_eq_row (t : Tree) (q : Path) (name : String) :
    t.property? q name = (t.table.row? q).bind fun row => row.properties.get? name := by
  rw [property?, row?_table, Option.bind_map]
  rfl

theorem property?_ensure (t : Tree) (p q : Path) (name : String) :
    (t.ensure p).property? q name = t.property? q name := by
  rw [property?, property?, node?_ensure]
  split
  · rw [Option.bind_some, Node.properties_ensure]
    cases t.node? q <;> rfl
  · rfl

/-- Setting a property of a node that is there sets that one and no other. -/
theorem property?_insert {t : Tree} {p : Path} (stored : t.contains p = true) (q : Path)
    (name key : String) (v : StoredValue) :
    (t.mapProperties (·.insert name v) p).property? q key =
      if q = p ∧ name = key then some v else t.property? q key := by
  obtain ⟨n, found⟩ := Option.isSome_iff_exists.1 stored
  rw [property?_eq_row, table_mapProperties, Table.row?_modify]
  by_cases here : q = p
  · subst here
    rw [if_pos rfl, row?_table, found, property?, found]
    simp only [true_and, Option.map_some, Option.bind_some]
    exact NameMap.get?_insert n.properties name key v
  · rw [if_neg here, if_neg (fun both => here both.1), property?_eq_row]

/-- A node with the next one on the way keeps its row. -/
theorem row_ensure_of_contains {t : Tree} {q : Path} {s : Segment} {n : Node}
    (found : t.node? q = some n) (stored : t.contains (q.child s) = true) (rest : List Segment) :
    (Node.ensure (s :: rest) n).row = n.row := by
  rw [Node.row, Node.row, Node.properties_ensure, childNames_ensure_of_contains found stored]

/-- What is outside of a stored node keeps its row, unless the new node is there or below. -/
theorem row?_ensure_of_beside {t : Tree} {p q r : Path} (stored : t.contains p = true)
    (beside : ¬p.segments <+: q.segments)
    (above : q.segments <+: r.segments → p.segments <+: r.segments) :
    (t.ensure r).table.row? q = t.table.row? q := by
  rw [row?_table, row?_table]
  by_cases onWay : q.segments <+: r.segments
  · rcases List.prefix_or_prefix_of_prefix onWay (above onWay) with higher | lower
    · obtain ⟨walk, split⟩ := higher
      cases walk with
      | nil =>
        rw [List.append_nil] at split
        exact absurd (split ▸ List.prefix_rfl) beside
      | cons k walk =>
        have next : (q.child k).segments <+: p.segments := ⟨walk, by rw [← split, Path.child]; simp⟩
        have there : t.contains (q.child k) = true := contains_of_above next stored
        obtain ⟨n, found⟩ := Option.isSome_iff_exists.1 (contains_of_contains_child there)
        obtain ⟨rest, further⟩ := above onWay
        rw [node?_ensure_of_above onWay, found, Option.getD_some, ← further, ← split,
          List.append_assoc, List.drop_left, List.cons_append]
        exact congrArg some (row_ensure_of_contains found there _)
    · exact absurd lower beside
  · rw [node?_ensure, if_neg onWay]

section Write
variable {t u : Tree} {m : Json.Member} {p q r : Path} {name : String} {v : StoredValue}

/-- Everything that writing one member can do. -/
theorem write_cases (wrote : t.write m = .ok u) :
    ∃ r, m.place? = some r ∧
      (((isNodeDocument m.value = true ∨ m.value = .null) ∧ u = t.ensure r) ∨
        ∃ v, r = m.node ∧ isNodeDocument m.value = false ∧ propertyOf m.value = .ok (some v) ∧
          u = (t.ensure r).mapProperties (·.insert m.name v) r) := by
  rw [write] at wrote
  rw [Json.Member.place?]
  split at wrote
  · next node =>
    rw [if_pos node]
    split at wrote
    · cases wrote
    · next child leads =>
      cases wrote
      exact ⟨child, leads, .inl ⟨.inl node, rfl⟩⟩
  · next property =>
    rw [if_neg property]
    obtain ⟨o, holds, put⟩ := bind_eq_ok.1 wrote
    refine ⟨m.node, rfl, ?_⟩
    cases o with
    | none =>
      cases put
      exact .inl ⟨.inr (propertyOf_eq_none_iff.1 holds), rfl⟩
    | some v =>
      cases put
      exact .inr ⟨v, rfl, by simpa using property, holds, rfl⟩

/-- A member is written exactly when it fits: its value is acceptable, and if it is a node its name
leads somewhere. -/
theorem exists_write_iff (distinct : m.value.Distinct) (t : Tree) :
    (∃ u, t.write m = .ok u) ↔ m.Fits := by
  cases is : isNodeDocument m.value with
  | true =>
    have acceptable : Acceptable m.value := by
      cases document : m.value with
      | object members =>
        rw [document] at is
        exact fun typed => absurd (is.symm.trans typed) (by decide)
      | _ =>
        rw [document] at is
        cases is
    rw [Json.Member.Fits, and_iff_right acceptable, write, if_pos is]
    cases m.node.join m.name with
    | none => simp [is, throw, throwThe, MonadExceptOf.throw]
    | some child => simp [pure, Except.pure]
  | false =>
    rw [Json.Member.Fits, ← exists_propertyOf_iff distinct is, write, if_neg (by simp [is])]
    simp only [is, Bool.false_eq_true, false_implies, and_true, bind_eq_ok]
    constructor
    · rintro ⟨u, o, holds, _⟩
      exact ⟨o, holds⟩
    · rintro ⟨o, holds⟩
      cases o with
      | none => exact ⟨_, none, holds, rfl⟩
      | some v => exact ⟨_, some v, holds, rfl⟩

/-- A member is refused with the error of what is wrong with it. -/
theorem write_eq_error_iff {e : TreeError} : t.write m = .error e ↔ m.Refused e := by
  rw [write, Json.Member.Refused]
  split
  · cases m.node.join m.name with
    | none => simp [throw, throwThe, MonadExceptOf.throw, eq_comm]
    | some child => simp [pure, Except.pure]
  · cases propertyOf m.value with
    | error e' => simp [bind, Except.bind]
    | ok o => cases o <;> simp [bind, Except.bind, pure, Except.pure]

/-- After a member there are the nodes that there were and those on the way to its place. -/
theorem contains_write_iff (wrote : t.write m = .ok u) (place : m.place? = some r) :
    u.contains q = true ↔ t.contains q = true ∨ q.segments <+: r.segments := by
  obtain ⟨r', place', ⟨_, rfl⟩ | ⟨v, _, _, _, rfl⟩⟩ := write_cases wrote
  all_goals obtain rfl : r = r' := Option.some.inj (place.symm.trans place')
  · exact contains_ensure_iff
  · rw [contains_mapProperties]
    exact contains_ensure_iff

/-- After a member the properties that it sets are its own, and the others stay. -/
theorem property?_write (wrote : t.write m = .ok u) :
    u.property? q name = some v ↔
      if m.sets q name then propertyOf m.value = .ok (some v) else t.property? q name = some v := by
  obtain ⟨r, _, ⟨unset, rfl⟩ | ⟨w, rfl, property, holds, rfl⟩⟩ := write_cases wrote
  · have idle : ¬m.sets q name = true := by
      rw [Json.Member.sets_iff]
      rintro ⟨_, _, property, filled⟩
      rcases unset with node | null
      · simp [property] at node
      · exact filled null
    rw [if_neg idle, property?_ensure]
  · have filled : m.value ≠ .null := by
      intro null
      rw [null] at holds
      cases holds
    have sets : m.sets q name = true ↔ q = m.node ∧ m.name = name := by
      rw [Json.Member.sets_iff, ← and_assoc, and_iff_left ⟨property, filled⟩]
    have there : (t.ensure m.node).contains m.node = true :=
      contains_ensure_iff.2 (.inr List.prefix_rfl)
    rw [property?_insert there, property?_ensure, holds]
    by_cases here : q = m.node ∧ m.name = name
    · rw [if_pos here, if_pos (sets.2 here)]
      simp
    · rw [if_neg here, if_neg (mt sets.1 here)]

/-- What is outside of a stored node keeps its row, unless the member goes there or below. -/
theorem row?_write (wrote : t.write m = .ok u) (place : m.place? = some r)
    (stored : t.contains p = true) (beside : ¬p.segments <+: q.segments)
    (above : q.segments <+: r.segments → p.segments <+: r.segments) :
    u.table.row? q = t.table.row? q := by
  have same : (t.ensure r).table.row? q = t.table.row? q := row?_ensure_of_beside stored beside above
  obtain ⟨r', place', ⟨_, rfl⟩ | ⟨v, _, _, _, rfl⟩⟩ := write_cases wrote
  all_goals obtain rfl : r = r' := Option.some.inj (place.symm.trans place')
  · exact same
  · have away : q ≠ r := by
      rintro rfl
      exact beside (above List.prefix_rfl)
    rw [table_mapProperties, Table.row?_modify, if_neg away, same]

end Write

/-! ## The members of a document -/

section Writes
variable {t u : Tree} {ms : List Json.Member} {p q : Path} {name : String} {v : StoredValue}

/-- After members there are the nodes that there were and those on the way to the place of any. -/
theorem contains_writes_iff (run : ms.foldlM write t = .ok u) :
    u.contains q = true ↔
      t.contains q = true ∨ ∃ m ∈ ms, ∃ r, m.place? = some r ∧ q.segments <+: r.segments := by
  induction ms generalizing t with
  | nil =>
    cases run
    simp
  | cons m rest ih =>
    rw [List.foldlM_cons] at run
    obtain ⟨a, first, later⟩ := bind_eq_ok.1 run
    obtain ⟨r, place, _⟩ := write_cases first
    rw [ih later, contains_write_iff first place, or_assoc]
    simp only [List.mem_cons, exists_eq_or_imp, place, Option.some.injEq, exists_eq_left']

/-- The last member that sets a property gives its value. -/
theorem property?_writes_iff (run : ms.foldlM write t = .ok u) :
    u.property? q name = some v ↔
      (∃ m, Json.lastAt ms q name = some m ∧ propertyOf m.value = .ok (some v)) ∨
        Json.lastAt ms q name = none ∧ t.property? q name = some v := by
  induction ms generalizing t with
  | nil =>
    cases run
    simp [Json.lastAt]
  | cons m rest ih =>
    rw [List.foldlM_cons] at run
    obtain ⟨a, first, later⟩ := bind_eq_ok.1 run
    rw [ih later, property?_write first, Json.lastAt_cons]
    cases Json.lastAt rest q name with
    | some last => simp
    | none => cases m.sets q name <;> simp

/-- Members leave the row of a node outside of `p`, if every place at or below that node is at or
below `p` too. -/
theorem row?_writes (run : ms.foldlM write t = .ok u) (stored : t.contains p = true)
    (beside : ¬p.segments <+: q.segments)
    (above : ∀ m ∈ ms, ∀ r, m.place? = some r →
      q.segments <+: r.segments → p.segments <+: r.segments) :
    u.table.row? q = t.table.row? q := by
  have kept : u.contains p = true ∧ u.table.row? q = t.table.row? q := by
    refine foldlM_induction (motive := fun a => a.contains p = true ∧
      a.table.row? q = t.table.row? q) ?_ run ⟨stored, rfl⟩
    rintro m mem a b wrote ⟨there, same⟩
    obtain ⟨r, place, _⟩ := write_cases wrote
    refine ⟨(contains_write_iff wrote place).2 (.inl there), ?_⟩
    rw [row?_write wrote place there beside (above m mem r place), same]
  exact kept.2

end Writes

/-- The members of a stored node are written one after the other, each followed by those inside. -/
theorem loadMembers_eq_foldlM {t : Tree} {p : Path} (stored : t.contains p = true)
    (members : List (String × Json)) :
    t.loadMembers p members = (Json.placed p members).foldlM write t := by
  induction members using Json.members_induction generalizing t p with
  | nil =>
    rw [loadMembers, Json.placed]
    rfl
  | node name inner rest node ihInner ihRest =>
    rw [loadMembers, if_pos node, Json.placed_node node, List.foldlM_cons, write, if_pos node]
    cases p.join name with
    | none => rfl
    | some child =>
      have there : (t.ensure child).contains child = true :=
        contains_ensure_iff.2 (.inr List.prefix_rfl)
      show t.loadNode child (.object inner) >>= (loadMembers · p rest) =
        (Json.placed child inner ++ Json.placed p rest).foldlM write (t.ensure child)
      rw [List.foldlM_append, ← ihInner there, loadNode]
      cases loaded : (t.ensure child).loadMembers child inner with
      | error e => rfl
      | ok a =>
        have kept : a.contains p = true := by
          rw [ihInner there] at loaded
          exact (contains_writes_iff loaded).2 (.inl (contains_ensure_iff.2 (.inl stored)))
        exact ihRest kept
  | property name value rest property ih =>
    have unlike : ¬isNodeDocument value = true := by simp [property]
    -- a write puts the node in first, and here it is there already
    rw [loadMembers, if_neg unlike, Json.placed_property property, List.foldlM_cons, write,
      if_neg unlike, ensure_eq_self stored]
    cases propertyOf value with
    | error e => rfl
    | ok o =>
      cases o with
      | none => exact ih stored
      | some v => exact ih (by rw [contains_mapProperties]; exact stored)

/-- A document is loaded by writing its members in order, from an empty tree. -/
theorem ofJson_eq_foldlM (members : List (String × Json)) :
    ofJson (.object members) = (Json.placed Path.root members).foldlM write empty := by
  rw [ofJson, loadNode, ensure_eq_self (contains_root empty)]
  exact loadMembers_eq_foldlM (contains_root empty) members

/-! ## Loaded trees -/

/-- What a tree with a document loaded into it has of a member that is an object: the member is
written in the object at `p`, and its name leads from there to `c`. -/
structure PlacesMember (t : Tree) (members : List (String × Json)) (p : Path) (name : String)
    (below : List (String × Json)) (c : Path) : Prop where
  becomes : Json.Becomes Path.root members c below
  /-- A plain name, and no other, is the name of a child. -/
  named : (∃ q ∈ t.childPaths p, q.name = name) ↔ IsPlainSegment name
  child : IsPlainSegment name → c ∈ t.childPaths p ∧ c.name = name
  /-- A node that no other object becomes has the properties of the member. -/
  alone : (∀ inner, Json.Becomes Path.root members c inner → inner = below) →
    ∀ key v, t.property? c key = some v ↔
      ∃ value, (key, value) ∈ below ∧ isNodeDocument value = false ∧ PropertyAs value v
  /-- Loading the member into any tree leaves what is outside of `p`, unless an object of the
  member gets there or below. -/
  beside : ∀ u w : Tree, u.contains p = true → u.loadNode c (.object below) = .ok w →
    ∀ q : Path, ¬p.segments <+: q.segments →
      (∀ r inner, Json.Becomes c below r inner → q.segments <+: r.segments →
        p.segments <+: r.segments) →
      w.table.row? q = u.table.row? q
  /-- Under plain names no object of the member gets out of `p`. -/
  inside : IsPlainSegment name → Json.NodesPlain below →
    ∀ r inner, Json.Becomes c below r inner → p.segments <+: r.segments

section Loaded
variable {members inner below : List (String × Json)} {t : Tree} {p q c : Path} {name : String}

/-- Members of a document are written exactly when each of them fits. -/
theorem exists_writes_iff {ms : List Json.Member} (sub : ms ⊆ Json.placed Path.root members)
    (distinct : (Json.object members).Distinct) :
    (∃ t, ms.foldlM write empty = .ok t) ↔ ∀ m ∈ ms, m.Fits := by
  refine exists_foldlM_iff ?_ empty
  intro m mem t
  exact exists_write_iff (Json.distinct_of_mem_placed distinct (sub mem)) t

/-- A document is accepted exactly when in every object that becomes a node the values are
acceptable and the names of nodes lead somewhere. -/
theorem exists_ofJson_iff_fits (distinct : (Json.object members).Distinct) :
    (∃ t, ofJson (.object members) = .ok t) ↔
      ∀ p inner, Json.Becomes Path.root members p inner → ∀ m ∈ inner,
        Acceptable m.2 ∧ (isNodeDocument m.2 = true → p.join m.1 ≠ none) := by
  rw [ofJson_eq_foldlM, exists_writes_iff (List.Subset.refl _) distinct]
  constructor
  · intro fits p inner becomes m mem
    exact fits ⟨p, m.1, m.2⟩ (Json.mem_placed_iff.2 ⟨inner, becomes, mem⟩)
  · intro fits m mem
    obtain ⟨inner, becomes, held⟩ := Json.mem_placed_iff.1 mem
    exact fits m.node inner becomes (m.name, m.value) held

/-- The first member that does not fit gives the error. -/
theorem ofJson_eq_error_iff (distinct : (Json.object members).Distinct) {e : TreeError} :
    ofJson (.object members) = .error e ↔
      ∃ front m rest, Json.placed Path.root members = front ++ m :: rest ∧
        (∀ k ∈ front, k.Fits) ∧ m.Refused e := by
  rw [ofJson_eq_foldlM, foldlM_eq_error_iff]
  refine exists_congr fun front => exists_congr fun m => exists_congr fun rest => ?_
  constructor
  · rintro ⟨t, split, run, refused⟩
    have sub : front ⊆ Json.placed Path.root members := split ▸ List.subset_append_left _ _
    exact ⟨split, (exists_writes_iff sub distinct).1 ⟨t, run⟩, write_eq_error_iff.1 refused⟩
  · rintro ⟨split, fits, refused⟩
    have sub : front ⊆ Json.placed Path.root members := split ▸ List.subset_append_left _ _
    obtain ⟨t, run⟩ := (exists_writes_iff sub distinct).2 fits
    exact ⟨t, split, run, write_eq_error_iff.2 refused⟩

/-- The nodes of a tree are those that an object of the document becomes, and those on the way
there. -/
theorem contains_ofJson_iff (loaded : ofJson (.object members) = .ok t) :
    t.contains q = true ↔
      ∃ r inner, Json.Becomes Path.root members r inner ∧ q.segments <+: r.segments := by
  rw [ofJson_eq_foldlM] at loaded
  rw [contains_writes_iff loaded]
  constructor
  · rintro (first | ⟨m, mem, r, place, above⟩)
    · refine ⟨Path.root, members, .self, ?_⟩
      by_contra below
      rw [← contains_table, table_empty, Table.contains, Table.row?_empty_of_ne] at first
      · cases first
      · rintro rfl
        exact below List.prefix_rfl
    · obtain ⟨inner, becomes⟩ := Json.exists_place_iff.1 (.inl ⟨m, mem, place⟩)
      exact ⟨r, inner, becomes, above⟩
  · rintro ⟨r, inner, becomes, above⟩
    rcases Json.exists_place_iff.2 ⟨inner, becomes⟩ with ⟨m, mem, place⟩ | rfl
    · exact .inr ⟨m, mem, r, place, above⟩
    · exact .inl (contains_of_above above (contains_root empty))

/-- A property is the value of the last member that sets it. -/
theorem property?_ofJson_iff (distinct : (Json.object members).Distinct)
    (loaded : ofJson (.object members) = .ok t) {v : StoredValue} :
    t.property? q name = some v ↔
      ∃ m, Json.lastAt (Json.placed Path.root members) q name = some m ∧ PropertyAs m.value v := by
  have nothing : ¬empty.property? q name = some v := by
    rw [property?_eq_row, table_empty, Table.empty]
    by_cases top : q = Path.root <;> simp [top, Row.empty, NameMap.empty, NameMap.get?]
  rw [ofJson_eq_foldlM] at loaded
  rw [property?_writes_iff loaded, or_iff_left fun old => nothing old.2]
  refine exists_congr fun m => and_congr_right fun last => ?_
  exact propertyOf_eq_ok_iff (Json.distinct_of_mem_placed distinct (Json.mem_of_lastAt last).1)

/-- Where one object alone becomes a node, the node has its properties. -/
theorem property?_iff_of_alone (distinct : (Json.object members).Distinct)
    (loaded : ofJson (.object members) = .ok t) (becomes : Json.Becomes Path.root members c below)
    (alone : ∀ inner, Json.Becomes Path.root members c inner → inner = below) {v : StoredValue} :
    t.property? c name = some v ↔
      ∃ value, (name, value) ∈ below ∧ isNodeDocument value = false ∧ PropertyAs value v := by
  have held_of_last (m : Json.Member)
      (last : Json.lastAt (Json.placed Path.root members) c name = some m) :
      (name, m.value) ∈ below ∧ isNodeDocument m.value = false := by
    obtain ⟨inner, becomes, held, property⟩ := Json.exists_becomes_of_lastAt last
    exact ⟨alone inner becomes ▸ held, property⟩
  rw [property?_ofJson_iff distinct loaded]
  constructor
  · rintro ⟨m, last, holds⟩
    obtain ⟨held, property⟩ := held_of_last m last
    exact ⟨m.value, held, property, holds⟩
  · rintro ⟨value, held, property, holds⟩
    have filled : value ≠ .null := by
      rintro rfl
      rcases holds with ⟨⟨⟩⟩
    obtain ⟨m, last⟩ := Json.exists_lastAt becomes held property filled
    -- the object has the name once, so the last member is this one
    have same : (name, m.value) = (name, value) :=
      List.inj_on_of_nodup_map (distinct.of_becomes becomes).once (held_of_last m last).1 held rfl
    exact ⟨m, last, (Prod.mk.inj same).2 ▸ holds⟩

/-- Loading an object below a path leaves the rows outside of it, unless an object inside gets
there. -/
theorem row?_loadNode_of_beside {u w : Tree} (stored : u.contains p = true)
    (loaded : u.loadNode c (.object below) = .ok w) (beside : ¬p.segments <+: q.segments)
    (above : ∀ r inner, Json.Becomes c below r inner → q.segments <+: r.segments →
      p.segments <+: r.segments) :
    w.table.row? q = u.table.row? q := by
  have there : (u.ensure c).contains c = true := contains_ensure_iff.2 (.inr List.prefix_rfl)
  rw [loadNode, loadMembers_eq_foldlM there] at loaded
  have first : (u.ensure c).table.row? q = u.table.row? q :=
    row?_ensure_of_beside stored beside (above c below .self)
  rw [← first]
  refine row?_writes loaded (contains_ensure_iff.2 (.inl stored)) beside ?_
  intro m mem r place
  obtain ⟨inner, becomes⟩ := Json.exists_place_iff.1 (.inl ⟨m, mem, place⟩)
  exact above r inner becomes

/-- A member that is an object is placed where its name leads from the object that it is written in,
and is a child there exactly when that name is plain. -/
theorem placesMember (distinct : (Json.object members).Distinct)
    (loaded : ofJson (.object members) = .ok t) (outer : Json.Becomes Path.root members p inner)
    (mem : (name, .object below) ∈ inner) (node : isNodeDocument (.object below) = true)
    (leads : p.join name = some c) : PlacesMember t members p name below c := by
  have becomes : Json.Becomes Path.root members c below := .member outer mem node leads
  have mem_childPaths_iff (q : Path) :
      q ∈ t.childPaths p ↔ t.contains q = true ∧ q.parent? = some p := by
    rw [← childPaths_table, ← contains_table]
    exact (coherent_table (distinct_ofJson loaded)).mem_childPaths_iff p q
  have stored : t.contains c = true :=
    (contains_ofJson_iff loaded).2 ⟨c, below, becomes, List.prefix_rfl⟩
  have step (plain : IsPlainSegment name) : c = p.child ⟨name, plain⟩ :=
    Option.some.inj (leads.symm.trans (Path.join_plain p ⟨name, plain⟩))
  have child (plain : IsPlainSegment name) : c ∈ t.childPaths p ∧ c.name = name := by
    have parent : c.parent? = some p := Path.parent?_eq_some_iff.2 ⟨_, step plain⟩
    exact ⟨(mem_childPaths_iff c).2 ⟨stored, parent⟩, by rw [step plain, Path.name_child]⟩
  refine ⟨becomes, ?_, child, ?_, ?_, ?_⟩
  · constructor
    · rintro ⟨q, listed, rfl⟩
      obtain ⟨s, rfl⟩ := Path.parent?_eq_some_iff.1 ((mem_childPaths_iff q).1 listed).2
      rw [Path.name_child]
      exact s.property
    · intro plain
      exact ⟨c, child plain⟩
  · intro alone key v
    exact property?_iff_of_alone distinct loaded becomes alone
  · intro u w there put q beside above
    exact row?_loadNode_of_beside there put beside above
  · intro plain lower r found within
    have lead : p.segments <+: c.segments := by
      rw [step plain]
      exact List.prefix_append _ _
    exact lead.trans (within.prefix_of_plain lower).1

end Loaded

/-- A document whose objects have each name once, whatever the names are: it can be loaded exactly
when each member of each object that becomes a node is acceptable and, if it becomes a node itself,
its name does not climb above the root, and otherwise the first member that is not so gives the
error. In the loaded tree the nodes are those that objects become and those above them, and a
property has the value of the last member that sets it, wherever that is written. A member that is
an object is put where its name leads. A child of its name has the node that it is written in if
and only if the name is plain. -/
theorem ofJson_places {members : List (String × Json)}
    (distinct : (Json.object members).Distinct) :
    ((∃ t, ofJson (.object members) = .ok t) ↔
      ∀ p inner, Json.Becomes Path.root members p inner → ∀ m ∈ inner,
        Acceptable m.2 ∧ (isNodeDocument m.2 = true → p.join m.1 ≠ none)) ∧
    (∀ e, ofJson (.object members) = .error e ↔
      ∃ front m rest, Json.placed Path.root members = front ++ m :: rest ∧
        (∀ k ∈ front, k.Fits) ∧ m.Refused e) ∧
    ∀ t, ofJson (.object members) = .ok t →
      (∀ q, t.contains q = true ↔
        ∃ r inner, Json.Becomes Path.root members r inner ∧ q.segments <+: r.segments) ∧
      (∀ q name v, t.property? q name = some v ↔ ∃ m,
        Json.lastAt (Json.placed Path.root members) q name = some m ∧ PropertyAs m.value v) ∧
      ∀ p inner, Json.Becomes Path.root members p inner →
        ∀ name below, (name, .object below) ∈ inner → isNodeDocument (.object below) = true →
          ∃ c, p.join name = some c ∧ PlacesMember t members p name below c := by
  have accepts := exists_ofJson_iff_fits distinct
  refine ⟨accepts, fun e => ofJson_eq_error_iff distinct, fun t loaded => ⟨?_, ?_, ?_⟩⟩
  · intro q
    exact contains_ofJson_iff loaded
  · intro q name v
    exact property?_ofJson_iff distinct loaded
  · intro p inner becomes name below mem node
    have leads : p.join name ≠ none := (accepts.1 ⟨t, loaded⟩ p inner becomes _ mem).2 node
    obtain ⟨c, at_c⟩ := Option.ne_none_iff_exists'.1 leads
    exact ⟨c, at_c, placesMember distinct loaded becomes mem node at_c⟩

/-- Members of a node that lead back to it and to the root. -/
def strayMembers : List (String × Json) :=
  [("", .object [("x", .integer 1)]), ("..", .object [("y", .bool true)])]

/-- Neither member is a child of `/a`: their properties are those of `/a` and of the root. -/
theorem ofJson_places_stray :
    let members : List (String × Json) := [("a", .object strayMembers)]
    let a : Path := Path.root.child ⟨"a", by decide⟩
    (Json.object members).Distinct ∧ ∃ t, ofJson (.object members) = .ok t ∧
      t.property? a "x" = some (.long 1) ∧ t.property? Path.root "y" = some (.boolean true) ∧
      (¬∃ q ∈ t.childPaths a, q.name = "") ∧ ¬∃ q ∈ t.childPaths a, q.name = ".." := by
  intro members a
  have distinct : (Json.object members).Distinct := by
    have same : (Json.object members).merged = .object members := by
      simp [members, strayMembers, Json.merged, Json.mergedMembers, Json.setMember]
    rw [← same]
    exact Json.distinct_merged _
  have accepted : (ofJson (.object members)).toOption.isSome = true := by decide +kernel
  obtain ⟨t, found⟩ := Option.isSome_iff_exists.1 accepted
  have loaded : ofJson (.object members) = .ok t := toOption_eq_some.1 found
  obtain ⟨_, _, holds⟩ := ofJson_places distinct
  obtain ⟨_, properties, places⟩ := holds t loaded
  have becomes : Json.Becomes Path.root members a strayMembers :=
    .member .self List.mem_cons_self (by decide) (Path.join_plain Path.root ⟨"a", by decide⟩)
  refine ⟨distinct, t, loaded, ?_, ?_, ?_, ?_⟩
  · exact (properties a "x" _).2 ⟨⟨a, "x", .integer 1⟩, rfl, .scalar (.long 1)⟩
  · exact (properties Path.root "y" _).2 ⟨⟨Path.root, "y", .bool true⟩, rfl, .scalar (.bool true)⟩
  · obtain ⟨_, _, placed⟩ := places a strayMembers becomes "" _ List.mem_cons_self (by decide)
    rw [placed.named]
    decide
  · obtain ⟨_, _, placed⟩ := places a strayMembers becomes ".." [("y", .bool true)]
      (by simp [strayMembers]) (by decide)
    rw [placed.named]
    decide

end Tree
end TreeAdapter
