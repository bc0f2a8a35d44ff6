import TreeAdapter.Proofs.Path.Join
import TreeAdapter.World.Reading

/-!
# What a getter of children lists

The listing that `get_children` makes before it hands out a collection, said without the program:
the node that the path of the accessor leads to, its children in their order, and of these the
ones that the filter keeps (`ChildFilter.Keeps`, for `accepts`). `Lists` has one listing for each
accessor and each state of the trees, and `listedChildren` is that one.
-/

namespace TreeAdapter
set_option autoImplicit false

/-- What a filter keeps: every child, every child under another name than that of the content node,
or the children that the predicate registered under a name chooses. -/
inductive ChildFilter.Keeps (f : Factory) (t : Tree) (child : Path) : ChildFilter → Prop where
  | all : Keeps f t child .all
  | other (named : child.name ≠ f.settings.contentNode) : Keeps f t child .excludeContentNode
  | chosen {name : String} {predicate : ChildPredicate}
      (registered : f.predicates.get? name = some predicate) (chooses : predicate t child = true) :
      Keeps f t child (.named name)

/-- A filter accepts the children that it keeps. -/
theorem ChildFilter.accepts_iff {f : Factory} {t : Tree} {child : Path} {filter : ChildFilter} :
    filter.accepts f t child = true ↔ filter.Keeps f t child := by
  constructor
  · intro accepted
    cases filter with
    | all => exact .all
    | excludeContentNode => exact .other (bne_iff_ne.1 accepted)
    | named name =>
      rw [accepts] at accepted
      split at accepted
      · next registered => exact .chosen registered accepted
      · cases accepted
  · intro keeps
    cases keeps with
    | all => rfl
    | other named => exact bne_iff_ne.2 named
    | chosen registered chooses => simpa only [accepts, registered] using chooses

/-- The members of one list that are kept make up the other, in the same order. -/
inductive Sifted {α : Type} (keeps : α → Prop) : List α → List α → Prop where
  | nil : Sifted keeps [] []
  | keep {x : α} {all kept : List α} (kept_head : keeps x) (rest : Sifted keeps all kept) :
      Sifted keeps (x :: all) (x :: kept)
  | drop {x : α} {all kept : List α} (dropped : ¬keeps x) (rest : Sifted keeps all kept) :
      Sifted keeps (x :: all) kept

/-- What is sifted from a list is its `filter`. -/
theorem sifted_iff {α : Type} {keeps : α → Prop} {accepts : α → Bool}
    (same : ∀ x, accepts x = true ↔ keeps x) {all kept : List α} :
    Sifted keeps all kept ↔ kept = all.filter accepts := by
  constructor
  · intro sifted
    induction sifted with
    | nil => rfl
    | keep kept_head _ ih => rw [List.filter_cons_of_pos ((same _).2 kept_head), ih]
    | drop dropped _ ih => rw [List.filter_cons_of_neg (mt (same _).1 dropped), ih]
  · rintro rfl
    induction all with
    | nil => exact .nil
    | cons x rest ih =>
      by_cases accepted : accepts x = true
      · rw [List.filter_cons_of_pos accepted]
        exact .keep ((same x).1 accepted) ih
      · rw [List.filter_cons_of_neg accepted]
        exact .drop (mt (same x).2 accepted) ih

namespace World
variable {w : World} {f : Factory} {r : Resource} {m : Method} {path : String}

/-! ## Places -/

/-- No node is where a path leads to from a resource, if it leads anywhere. -/
def Vacant (w : World) (r : Resource) (path : String) : Prop :=
  ∀ p, r.path.join path = some p → w.holds ⟨r.tree, p⟩ = false

/-- A path that resolves leads to its target, in the same tree. -/
theorem join_of_resolve {target : Resource} (h : w.resolve r path = some target) :
    r.path.join path = some target.path ∧ target.tree = r.tree := by
  obtain ⟨p, found, rfl⟩ := Option.map_eq_some_iff.1 h
  refine ⟨?_, rfl⟩
  unfold Tree.resolve at found
  split at found
  · next here => rw [here, Path.join_empty, found]
  · exact (Option.filter_eq_some_iff.1 found).1

/-- A node that a path leads to is what the path resolves to. -/
theorem resolve_of_join {p : Path} (leads : r.path.join path = some p)
    (here : w.holds ⟨r.tree, p⟩ = true) : w.resolve r path = some ⟨r.tree, p⟩ := by
  have found : (w.tree r.tree).resolve r.path path = some p := by
    unfold Tree.resolve
    split
    · next empty => rwa [empty, Path.join_empty] at leads
    · exact Option.filter_eq_some_iff.2 ⟨leads, here⟩
  rw [resolve, found, Option.map_some]

/-- What resolves from where no node is, is not there. -/
theorem Vacant.holds_eq_false (vacant : w.Vacant r path) {target : Resource}
    (h : w.resolve r path = some target) : w.holds target = false := by
  obtain ⟨joined, tree⟩ := join_of_resolve h
  have missing := vacant _ joined
  rwa [← tree] at missing

/-! ## Listings -/

/-- The resources that an accessor lists for an adapter over `r` with the trees as they are: the
children of the node that its path leads to, in the order of the tree, that its filter keeps, and
none when there is no such node. Blanks around the path do not count, and the empty path stays at
`r`. -/
inductive Lists (w : World) (f : Factory) (r : Resource) (access : ChildrenAccess) :
    List Resource → Prop where
  | missing (vacant : w.Vacant r (Text.trim access.path)) : Lists w f r access []
  | target {p : Path} {n : Node} {kept : List Path}
      (leads : r.path.join (Text.trim access.path) = some p)
      (found : (w.tree r.tree).node? p = some n)
      (sifted : Sifted (fun child => access.filter.Keeps f (w.tree r.tree) child)
        (n.childNames.map p.child) kept) :
      Lists w f r access (kept.map fun child => ⟨r.tree, child⟩)

/-- Nothing is listed where nothing is. -/
theorem Vacant.listedChildren_eq_nil {access : ChildrenAccess}
    (vacant : w.Vacant r (Text.trim access.path)) (f : Factory) :
    w.listedChildren f r access (Addressing.children m access) = [] := by
  unfold listedChildren
  split
  · rfl
  · next parent found =>
    have missing := vacant.holds_eq_false found
    have barren : w.childrenOf parent = [] := by
      unfold holds Tree.contains at missing
      rw [Option.isSome_eq_false_iff, Option.isNone_iff_eq_none] at missing
      rw [childrenOf, Tree.childPaths, missing, List.map_nil]
    rw [barren, List.filter_nil]

/-- At a node, what is listed are the children that the filter accepts. -/
theorem listedChildren_of_node {access : ChildrenAccess} {p : Path} {n : Node}
    (leads : r.path.join (Text.trim access.path) = some p)
    (found : (w.tree r.tree).node? p = some n) :
    w.listedChildren f r access (Addressing.children m access) =
      ((n.childNames.map p.child).filter (access.filter.accepts f (w.tree r.tree))).map
        fun child => ⟨r.tree, child⟩ := by
  have here : w.holds ⟨r.tree, p⟩ = true := by rw [holds, Tree.contains, found, Option.isSome_some]
  have resolved := resolve_of_join leads here
  unfold listedChildren
  simp only [Addressing.children, resolved, childrenOf, Tree.childPaths, found, List.filter_map]
  rfl

/-- Each accessor has one listing, and it is the one that the program makes. -/
theorem lists_iff (m : Method) {access : ChildrenAccess} {listed : List Resource} :
    w.Lists f r access listed ↔
      listed = w.listedChildren f r access (Addressing.children m access) := by
  have same (child : Path) : access.filter.accepts f (w.tree r.tree) child = true ↔
      access.filter.Keeps f (w.tree r.tree) child := ChildFilter.accepts_iff
  constructor
  · intro lists
    cases lists with
    | missing vacant => exact (vacant.listedChildren_eq_nil f).symm
    | target leads found sifted =>
      rw [listedChildren_of_node leads found, (sifted_iff same).1 sifted]
  · rintro rfl
    by_cases vacant : w.Vacant r (Text.trim access.path)
    · rw [vacant.listedChildren_eq_nil f]
      exact .missing vacant
    · simp only [Vacant, not_forall, Bool.not_eq_false] at vacant
      obtain ⟨p, leads, here⟩ := vacant
      obtain ⟨n, found⟩ := Option.isSome_iff_exists.1 here
      rw [listedChildren_of_node leads found]
      exact .target leads found ((sifted_iff same).2 rfl)

end World
end TreeAdapter
