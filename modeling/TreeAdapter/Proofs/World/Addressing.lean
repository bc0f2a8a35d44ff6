import TreeAdapter.Proofs.Address
import TreeAdapter.Proofs.Path.Join
import TreeAdapter.Proofs.World.CallOrder

/-!
# Where properties lie

The name of a property may have directories in front of its leaf (`Splits`). The address of a getter
is put together from texts by `resolve_property`, and `locate` asks the tree for where that text
leads to. This is the place that the path leads to and the directories lead to from there, step by
step (`place?`): joining composes, whatever separators the texts begin or end with (`join_under`).

* `property_lies` — the stored value that a getter reads on a fresh adapter
-/

namespace TreeAdapter
set_option autoImplicit false

namespace Addressing

/-- `name` is `leaf`, or `directories`, a separator and `leaf`; the leaf holds no separator. -/
def Splits (name : String) (directories : Option String) (leaf : String) : Prop :=
  '/' ∉ leaf.toList ∧ name = directories.elim leaf fun d => d ++ "/" ++ leaf

/-- The place of a property whose name has `directories` in front of its leaf: where the path
leads to without any, the root when they are empty, where they lead to when they are absolute,
and else where they lead to from the end of the path. An empty path stays at `base`. -/
def place? (base : Path) (path : String) : Option String → Option Path
  | none => base.join path
  | some directories =>
    if directories = "" then some Path.root
    else if Path.isAbsolute directories then base.join directories
    else (base.join path).bind fun p => p.join directories

theorem Splits.unique {name leaf leaf' : String} {directories directories' : Option String}
    (h : Splits name directories leaf) (h' : Splits name directories' leaf') :
    directories = directories' ∧ leaf = leaf' := by
  obtain ⟨plain, whole⟩ := h
  obtain ⟨plain', whole'⟩ := h'
  have same := congrArg String.toList (whole.symm.trans whole')
  cases directories with
  | none =>
    cases directories' with
    | none => exact ⟨rfl, String.toList_inj.1 same⟩
    | some d =>
      rw [Option.elim_none] at same
      simp [same] at plain
  | some d =>
    cases directories' with
    | none =>
      rw [Option.elim_none] at same
      simp [← same] at plain'
    | some d' =>
      simp only [Option.elim_some, String.toList_append, List.append_assoc] at same
      obtain ⟨front, back⟩ := Text.behind_inj plain plain' same
      exact ⟨congrArg some (String.toList_inj.1 front), String.toList_inj.1 back⟩

/-- Every name splits, and where its property is looked for follows from its parts. -/
theorem exists_splits (path name : String) : ∃ directories leaf, Splits name directories leaf ∧
    locate path name = (directories.elim path (pathOf path), leaf) := by
  unfold locate
  cases cut : Text.cutLast '/' name.toList with
  | none => exact ⟨none, name, ⟨Text.cutLast_eq_none cut, rfl⟩, rfl⟩
  | some parts =>
    obtain ⟨before, after⟩ := parts
    obtain ⟨whole, plain⟩ := Text.cutLast_eq_some cut
    refine ⟨some (String.ofList before), String.ofList after, ⟨by simpa using plain, ?_⟩, rfl⟩
    rw [← String.toList_inj]
    simp [whole]

theorem locate_of_splits {path name leaf : String} {directories : Option String}
    (h : Splits name directories leaf) :
    locate path name = (directories.elim path (pathOf path), leaf) := by
  obtain ⟨d, l, splits, located⟩ := exists_splits path name
  obtain ⟨rfl, rfl⟩ := h.unique splits
  exact located

/-! ## The path of an address -/

/-- Directories put under a path lead to where they lead to from the end of the path. -/
theorem join_under (base : Path) (path : String) {directories : String}
    (relative : Path.isAbsolute directories = false) :
    base.join (under path directories) = (base.join path).bind fun p => p.join directories := by
  by_cases own : path = ""
  · subst own
    simp [under]
  · obtain ⟨n, cut⟩ := Text.exists_dropTrailing '/' path.toList
    let front := String.ofList (Text.dropTrailing (· == '/') path.toList)
    have whole : under path directories = front ++ "/" ++ directories := by
      rw [under, if_neg own]
    have absolute : Path.isAbsolute (under path directories) = Path.isAbsolute path := by
      rw [Path.isAbsolute_eq own, Path.isAbsolute, toList_under own]
      cases Text.dropTrailing (· == '/') path.toList <;> rfl
    have walked (p : Path) : p.walk (Path.written path) = p.walk (Path.written front) := by
      have trailing := Path.walk_written_replicate p
        (Text.dropTrailing (· == '/') path.toList) n
      rw [← cut] at trailing
      simpa [Path.written, front] using trailing
    refine Path.join_of_walks base absolute relative fun q => ?_
    rw [whole, Path.written_append, Path.walk_append, walked]

theorem join_pathOf (base : Path) (path : String) (directories : Option String) :
    base.join (directories.elim path (pathOf path)) = place? base path directories := by
  cases directories with
  | none => rfl
  | some d =>
    rw [Option.elim_some, pathOf, place?]
    by_cases atRoot : d = ""
    · have top : Path.root.walk (Path.written "/") = some Path.root := by decide +kernel
      rw [if_pos atRoot, if_pos atRoot, Path.join_of_absolute base (by decide), top]
    · rw [if_neg atRoot, if_neg atRoot]
      cases absolute : Path.isAbsolute d with
      | true =>
        have head : d.toList.head? = some '/' := by simpa [Path.isAbsolute] using absolute
        rw [if_pos head, if_pos rfl]
      | false =>
        have head : d.toList.head? ≠ some '/' := by simpa [Path.isAbsolute] using absolute
        rw [if_neg head, join_under base path absolute]
        simp

theorem property_of_splits {m : Method} {access : PropertyAccess} (settings : Settings)
    (metadata : m.accessor = some (.property access)) {directories : Option String} {leaf : String}
    (splits : Splits (Text.trim access.name) directories leaf) (named : leaf ≠ "") :
    ∃ address, property m settings = .ok address ∧ address.key = leaf ∧
      address.path = directories.elim (Text.trim access.path) (pathOf (Text.trim access.path)) ∧
      address.derived = false := by
  have explicit : Text.trim access.name ≠ "" := by
    intro empty
    obtain ⟨_, rfl⟩ := splits.unique (⟨by simp, empty⟩ : Splits _ none "")
    exact named rfl
  have parts : propertyParts m = (Text.trim access.path, Text.trim access.name) := by
    rw [propertyParts, metadata]
  let path := directories.elim (Text.trim access.path) (pathOf (Text.trim access.path))
  have address : property m settings = .ok ⟨path, leaf, false, propertyCacheKey m path leaf⟩ := by
    simp only [property, parts, if_neg explicit, locate_of_splits splits, if_neg named, path]
  exact ⟨_, address, rfl, rfl, rfl⟩

end Addressing

/-- Resolving a text asks for a node where the text leads to; without one there is nothing to
read there either. -/
theorem Tree.bind_resolve_of_missing {α : Type} (t : Tree) (p : Path) (text : String)
    {read : Path → Option α} (missing : ∀ q, t.node? q = none → read q = none) :
    (t.resolve p text).bind read = (p.join text).bind read := by
  unfold Tree.resolve
  by_cases here : text = ""
  · subst here
    simp
  · rw [if_neg here]
    cases p.join text with
    | none => rfl
    | some q =>
      cases node : t.contains q with
      | true => rw [Option.filter_some, if_pos node]
      | false =>
        have nothing : read q = none := missing q (by simpa [Tree.contains] using node)
        simp [Option.filter_some, node, nothing]

theorem Tree.bind_resolve (t : Tree) (p : Path) (text key : String) :
    (t.resolve p text).bind (fun q => t.property? q key) =
      (p.join text).bind fun q => t.property? q key := by
  apply t.bind_resolve_of_missing
  intro q missing
  rw [Tree.property?, missing, Option.bind_none]

/-- What a property getter makes of the stored value that it reads; without one its default
counts. -/
def Method.answerOf (m : Method) (raw : Option StoredValue) : Outcome :=
  match cast (raw.or (World.fallbackOf m)) (m.returns.getD .string) with
  | .ok v => .ok v
  | .error e => .error (.coercion e)

namespace World

theorem rawProperty_of_explicit (w : World) (settings : Settings) (r : Resource) {address : Address}
    (explicit : address.derived = false) :
    w.rawProperty settings r address =
      (r.path.join address.path).bind fun p => (w.tree r.tree).property? p address.key := by
  have exact (r : Resource) : w.readProperty settings r address = w.property? r address.key := by
    unfold readProperty
    cases w.property? r address.key <;> simp [explicit]
  rw [← Tree.bind_resolve, rawProperty, resolve, Option.bind_map]
  simp only [exact]
  rfl

/-- A getter whose metadata gives path and name reads, on a fresh adapter, the property of the
leaf at the node of its place, and nothing when there is no such place or no node there; its
outcome is what it makes of that value. -/
theorem property_lies (w : World) (f : Factory) (i : Interface) (r : Resource) {c : Call}
    {m : Method} {access : PropertyAccess} (found : i.method? c.method c.args.length = some m)
    (metadata : m.accessor = some (.property access))
    (getter : m.category f.settings = .propertyGetter) :
    (∃ directories leaf, Addressing.Splits (Text.trim access.name) directories leaf) ∧
    ∀ directories leaf, Addressing.Splits (Text.trim access.name) directories leaf → leaf ≠ "" →
      ∃ address, m.requiredAddress f.settings = .ok address ∧ address.key = leaf ∧
        (w.newAdapter f i r).1.rawProperty f.settings r address =
          ((Addressing.place? r.path (Text.trim access.path) directories).bind fun p =>
            ((w.tree r.tree).node? p).bind fun n => n.properties.get? leaf) ∧
        w.first f i r c =
          some (m.answerOf ((w.newAdapter f i r).1.rawProperty f.settings r address)) := by
  refine ⟨?_, ?_⟩
  · obtain ⟨directories, leaf, splits, _⟩ := Addressing.exists_splits "" (Text.trim access.name)
    exact ⟨directories, leaf, splits⟩
  · intro directories leaf splits named
    obtain ⟨address, located, key, path, explicit⟩ :=
      Addressing.property_of_splits f.settings metadata splits named
    rw [← Method.requiredAddress_of_propertyGetter getter] at located
    refine ⟨address, located, key, ?_, ?_⟩
    · rw [rawProperty_of_explicit _ _ _ explicit, path, Addressing.join_pathOf, key]
      rfl
    · have reading : i.reading? f.settings c = some m := by
        rw [reading?_eq_some_iff, getter]
        exact ⟨found, rfl⟩
      have settings : ((w.newAdapter f i r).1.factoryOf (w.newAdapter f i r).2).settings =
          f.settings := by
        rw [(serves_newAdapter w f i r).factory]
      rw [first_eq reading, uncached_of_located reading located]
      simp only [computed, settings, getter]
      rfl

/-- From `/a` the path `b/` and the name `./..//b/t` lead to the property `t` of `/a/b`. -/
theorem property_lies_below :
    let a : Segment := ⟨"a", by decide⟩
    let b : Segment := ⟨"b", by decide⟩
    let below := Node.mk (NameMap.empty.insert "t" (.string "x")) []
    let w := ofTrees [⟨Node.mk NameMap.empty [(a, Node.mk NameMap.empty [(b, below)])]⟩]
    let access : PropertyAccess := ⟨" b/ ", "./..//b/t", none, false⟩
    let m : Method := ⟨"getT", [], some .string, some (.property access), "Page"⟩
    let page := Interface.ofDeclaration ⟨"Page", [], [m], []⟩ []
    page.method? "getT" 0 = some m ∧ m.category (default : Factory).settings = .propertyGetter ∧
      Addressing.Splits (Text.trim access.name) (some "./..//b") "t" ∧
      w.first default page ⟨0, Path.root.child a⟩ ⟨"getT", []⟩ = some (.ok (.string "x")) := by
  intro a b below w access m page
  have found : page.method? "getT" 0 = some m := by decide +kernel
  have getter : m.category (default : Factory).settings = .propertyGetter := by decide +kernel
  have splits : Addressing.Splits (Text.trim access.name) (some "./..//b") "t" :=
    ⟨by decide, by decide +kernel⟩
  refine ⟨found, getter, splits, ?_⟩
  obtain ⟨address, _, _, raw, outcome⟩ := (property_lies w default page ⟨0, Path.root.child a⟩
    (c := ⟨"getT", []⟩) found rfl getter).2 _ _ splits (by decide)
  have place : Addressing.place? (Path.root.child a) (Text.trim access.path) (some "./..//b") =
      some ((Path.root.child a).child b) := by decide +kernel
  rw [outcome, raw, place]
  rfl

end World
end TreeAdapter
