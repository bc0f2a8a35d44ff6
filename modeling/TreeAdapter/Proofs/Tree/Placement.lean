import TreeAdapter.Proofs.Tree.Loading

/-!
# Where members end up

The name of a member that is an object is joined by `load_node` like any other text onto the path of
the node that it is written in, so it may lead to that node itself, to a node above it, several
steps down or anywhere from the root. `Json.Becomes` follows these walks through a document, and
`Json.placed` lists its members in the order of the document with the nodes that they are written
in.

* `Json.mem_placed_iff` — the list has the members of the objects that become nodes
* `Json.Becomes.prefix_of_plain` — under plain names the walks only go down
-/

namespace TreeAdapter
set_option autoImplicit false

open TreeAdapter.Tree (isNodeDocument propertyOf)

namespace Json

/-! ## Members and the nodes they are written in -/

/-- A member with the node that it is written in. -/
structure Member where
  node : Path
  name : String
  value : Json

namespace Member

/-- The node that the member is about: the one its name leads to, or the one it is written in. -/
def place? (m : Member) : Option Path :=
  if isNodeDocument m.value then m.node.join m.name else some m.node

/-- The member holds the property of that name for the node at `q`. -/
def sets (q : Path) (name : String) (m : Member) : Bool :=
  q = m.node && m.name = name && !isNodeDocument m.value && !m.value.isNull

/-- A member sets a property of the node that it is written in, unless it is a node itself or
`null`. -/
theorem sets_iff {q : Path} {name : String} {m : Member} :
    m.sets q name = true ↔
      q = m.node ∧ m.name = name ∧ isNodeDocument m.value = false ∧ m.value ≠ .null := by
  simp [sets, ← isNull_iff, and_assoc]

/-- The member is acceptable, and its name leads somewhere if it becomes a node. -/
def Fits (m : Member) : Prop :=
  Acceptable m.value ∧ (isNodeDocument m.value = true → m.node.join m.name ≠ none)

/-- The error that the member is refused with: its name climbs above the root, or it holds no
property. -/
def Refused (m : Member) (e : TreeError) : Prop :=
  if isNodeDocument m.value then m.node.join m.name = none ∧ e = .memberEscapesRoot m.node m.name
  else propertyOf m.value = .error e

end Member

/-- From `p` on, an object of a document becomes the node at a path: the document itself at `p`,
and a member of an object where its name leads from there. -/
inductive Becomes (p : Path) (members : List (String × Json)) :
    Path → List (String × Json) → Prop where
  | self : Becomes p members p members
  | member {q c : Path} {name : String} {inner below : List (String × Json)}
      (outer : Becomes p members q inner) (mem : (name, object below) ∈ inner)
      (node : isNodeDocument (object below) = true) (leads : q.join name = some c) :
      Becomes p members c below

mutual

/-- The members inside a document that becomes the node at `p`. -/
def placedIn (p : Path) : Json → List Member
  | object members => placed p members
  | _ => []

/-- The members of the node at `p`, each followed by those inside it, in the order of the
document. -/
def placed (p : Path) : List (String × Json) → List Member
  | [] => []
  | (name, value) :: rest =>
    let inside :=
      if isNodeDocument value then
        match p.join name with
        | some child => placedIn child value
        | none => []
      else []
    ⟨p, name, value⟩ :: (inside ++ placed p rest)

end

section Placed
variable {p q c : Path} {members inner below rest : List (String × Json)} {name : String}
  {m : Member}

/-- A node member comes first, then the members inside it if its name leads somewhere, then the
rest. -/
theorem placed_node (node : isNodeDocument (object inner) = true) :
    placed p ((name, object inner) :: rest) =
      ⟨p, name, object inner⟩ ::
        (((p.join name).elim [] fun child => placed child inner) ++ placed p rest) := by
  rw [placed]
  simp only [node, if_true]
  cases p.join name <;> rfl

/-- A property member comes first, then the rest. -/
theorem placed_property {value : Json} (property : isNodeDocument value = false) :
    placed p ((name, value) :: rest) = ⟨p, name, value⟩ :: placed p rest := by
  rw [placed]
  simp [property]

/-- What becomes a node inside an object that becomes one, becomes one in the whole. -/
theorem Becomes.trans (outer : Becomes p members q inner) {r : Path}
    (further : Becomes q inner r below) : Becomes p members r below := by
  induction further with
  | self => exact outer
  | member _ mem node leads ih => exact .member ih mem node leads

/-- What an object becomes is found in any longer list of members as well. -/
theorem exists_becomes_of_mem (sub : ∀ e ∈ members, e ∈ inner) (mem : m ∈ placed p members) :
    ∃ found, Becomes p inner m.node found ∧ (m.name, m.value) ∈ found := by
  -- the induction drops members from the front, the object that they are in stays whole
  induction members using members_induction generalizing p inner with
  | nil => cases mem
  | property name value rest property ih =>
    obtain ⟨here, later⟩ := List.forall_mem_cons.1 sub
    rw [placed_property property] at mem
    rcases List.mem_cons.1 mem with rfl | mem
    · exact ⟨inner, .self, here⟩
    · exact ih later mem
  | node name below rest node ihInner ihRest =>
    obtain ⟨here, later⟩ := List.forall_mem_cons.1 sub
    rw [placed_node node] at mem
    rcases List.mem_cons.1 mem with rfl | mem
    · exact ⟨inner, .self, here⟩
    · rcases List.mem_append.1 mem with mem | mem
      · cases leads : p.join name with
        | none => simp [leads] at mem
        | some c =>
          rw [leads] at mem
          obtain ⟨found, becomes, held⟩ := ihInner (fun _ inside => inside) mem
          have outer : Becomes p inner c below := .member .self here node leads
          exact ⟨found, outer.trans becomes, held⟩
      · exact ihRest later mem

/-- The members of an object are placed at the node that it is. -/
theorem mem_placed_self {value : Json} (mem : (name, value) ∈ members) :
    ⟨p, name, value⟩ ∈ placed p members := by
  induction members with
  | nil => cases mem
  | cons e rest ih =>
    obtain ⟨first, other⟩ := e
    rw [placed]
    rcases List.mem_cons.1 mem with eq | mem
    · cases eq
      exact List.mem_cons_self
    · exact List.mem_cons_of_mem _ (List.mem_append.2 (.inr (ih mem)))

/-- The members inside a node member are placed where its name leads. -/
theorem placed_subset_of_mem (mem : (name, object below) ∈ members)
    (node : isNodeDocument (object below) = true) (leads : p.join name = some c) :
    placed c below ⊆ placed p members := by
  induction members with
  | nil => cases mem
  | cons e rest ih =>
    obtain ⟨first, other⟩ := e
    intro m inside
    rcases List.mem_cons.1 mem with eq | mem
    · cases eq
      rw [placed_node node, leads]
      exact List.mem_cons_of_mem _ (List.mem_append.2 (.inl inside))
    · rw [placed]
      exact List.mem_cons_of_mem _ (List.mem_append.2 (.inr (ih mem inside)))

/-- The members of every object that becomes a node are placed at it. -/
theorem Becomes.placed_subset (h : Becomes p members q inner) :
    placed q inner ⊆ placed p members := by
  induction h with
  | self => exact List.Subset.refl _
  | member _ mem node leads ih => exact List.Subset.trans (placed_subset_of_mem mem node leads) ih

/-- The list has the members of the objects that become nodes. -/
theorem mem_placed_iff :
    m ∈ placed p members ↔ ∃ inner, Becomes p members m.node inner ∧ (m.name, m.value) ∈ inner := by
  constructor
  · exact exists_becomes_of_mem fun _ inside => inside
  · rintro ⟨inner, becomes, held⟩
    exact becomes.placed_subset (mem_placed_self held)

/-- The members are about the nodes that objects become. -/
theorem exists_place_iff :
    (∃ m ∈ placed p members, m.place? = some q) ∨ q = p ↔ ∃ inner, Becomes p members q inner := by
  constructor
  · rintro (⟨m, mem, place⟩ | rfl)
    · obtain ⟨node, name, value⟩ := m
      obtain ⟨inner, becomes, held⟩ := mem_placed_iff.1 mem
      rw [Member.place?] at place
      split at place
      · next is =>
        cases value with
        | object below => exact ⟨below, becomes.member held is place⟩
        | _ => cases is
      · cases place
        exact ⟨inner, becomes⟩
    · exact ⟨members, .self⟩
  · rintro ⟨inner, becomes⟩
    cases becomes with
    | self => exact .inr rfl
    | @member outer _ name _ _ becomes mem node leads =>
      refine .inl ⟨⟨outer, name, .object inner⟩, mem_placed_iff.2 ⟨_, becomes, mem⟩, ?_⟩
      rw [Member.place?, if_pos node, leads]

/-- In a document without repeated names no object that becomes a node has any. -/
theorem Distinct.of_becomes (h : (Json.object members).Distinct)
    (becomes : Becomes p members q inner) : (Json.object inner).Distinct := by
  induction becomes with
  | self => exact h
  | member _ mem _ _ ih => exact ih.member mem

theorem distinct_of_mem_placed (h : (object members).Distinct) (mem : m ∈ placed p members) :
    m.value.Distinct := by
  obtain ⟨inner, becomes, held⟩ := mem_placed_iff.1 mem
  exact (h.of_becomes becomes).member held

/-- Under plain names an object stays below the node that it is written in. -/
theorem Becomes.prefix_of_plain (becomes : Becomes p members q inner) (plain : NodesPlain members) :
    p.segments <+: q.segments ∧ NodesPlain inner := by
  induction becomes with
  | self => exact ⟨List.prefix_rfl, plain⟩
  | @member q c name inner below _ mem node leads ih =>
    obtain ⟨above, lower⟩ := ih
    have named : IsPlainSegment name := by
      cases lower with
      | intro names _ => exact names _ mem node
    have child : Json.NodeAt inner ⟨name, named⟩ below := ⟨mem, node⟩
    obtain rfl : q.child ⟨name, named⟩ = c := by
      apply Option.some.inj
      rw [← leads]
      exact (Path.join_plain q ⟨name, named⟩).symm
    exact ⟨above.trans (List.prefix_append _ _), lower.child child⟩

end Placed

/-- The last of the members that set the property of that name of the node at `q`. -/
def lastAt (ms : List Member) (q : Path) (name : String) : Option Member :=
  ms.reverse.find? (Member.sets q name)

/-- A later member that sets the property counts before the first. -/
theorem lastAt_cons (m : Member) (rest : List Member) (q : Path) (name : String) :
    lastAt (m :: rest) q name =
      (lastAt rest q name).or (if m.sets q name then some m else none) := by
  rw [lastAt, List.reverse_cons, List.find?_append, List.find?_singleton]
  rfl

theorem mem_of_lastAt {ms : List Member} {q : Path} {name : String} {m : Member}
    (last : lastAt ms q name = some m) : m ∈ ms ∧ m.sets q name = true :=
  ⟨List.mem_reverse.1 (List.mem_of_find?_eq_some last), List.find?_some last⟩

section Last
variable {p q : Path} {members inner : List (String × Json)} {name : String}

/-- What sets a property of a node is written in an object that becomes the node. -/
theorem exists_becomes_of_lastAt {m : Member} (last : lastAt (placed p members) q name = some m) :
    ∃ inner, Becomes p members q inner ∧ (name, m.value) ∈ inner ∧
      isNodeDocument m.value = false := by
  obtain ⟨mem, sets⟩ := mem_of_lastAt last
  obtain ⟨rfl, rfl, property, _⟩ := Member.sets_iff.1 sets
  obtain ⟨inner, becomes, held⟩ := mem_placed_iff.1 mem
  exact ⟨inner, becomes, held, property⟩

/-- If an object that becomes a node has the property, some member is the last to set it. -/
theorem exists_lastAt (becomes : Becomes p members q inner) {value : Json}
    (held : (name, value) ∈ inner) (property : isNodeDocument value = false)
    (filled : value ≠ .null) : ∃ m, lastAt (placed p members) q name = some m := by
  have mem : ⟨q, name, value⟩ ∈ placed p members := mem_placed_iff.2 ⟨inner, becomes, held⟩
  have sets : Member.sets q name ⟨q, name, value⟩ = true :=
    Member.sets_iff.2 ⟨rfl, rfl, property, filled⟩
  rw [lastAt, ← Option.isSome_iff_exists, List.find?_isSome]
  exact ⟨_, List.mem_reverse.2 mem, sets⟩

end Last

end Json
end TreeAdapter
