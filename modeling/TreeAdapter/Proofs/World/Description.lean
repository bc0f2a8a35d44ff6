import TreeAdapter.Proofs.World.Identity
import TreeAdapter.Tree.Loader

/-!
# Descriptions

A description, which is what `describe` gives, asks the listed methods of an adapter one after the
other, by their names as any client does, and goes on behind those that fail; each has an entry of
its own (`Shows`, `exists_entries`). What a listed method has answered it answers from then on
(`Listed.read_of_answered`): the answer of a getter is kept, and an adapter stays over its resource.

* `describe_freezes` — what a description says of each listed method, and that a value in it stays
-/

namespace TreeAdapter.World
set_option autoImplicit false

variable {w u w' : World} {a : Adapter} {m : Method}

/-! ## Listed methods -/

/-- What the methods are that a description lists. -/
def listedCategories : List Category :=
  [.propertyGetter, .referenceGetter, .childrenGetter, .backingResource]

/-- A description lists the methods without parameters of the listed categories. -/
theorem isListed_iff {settings : Settings} :
    isListed settings m = true ↔ m.params = [] ∧ m.category settings ∈ listedCategories := by
  unfold isListed
  rw [Bool.and_eq_true, List.isEmpty_iff]
  refine and_congr_right fun _ => ?_
  cases m.category settings with
  | identity method => simp [Category.isAccessor, listedCategories]
  | _ => decide

/-- Calls of the method's name without arguments are answered by it, and a description lists it. -/
structure Listed (w : World) (a : Adapter) (m : Method) : Prop where
  made : a.id < w.adapters.size
  found : lookup a (w.factoryOf a).settings m.name 0 = .ok m
  category : m.category (w.factoryOf a).settings ∈ listedCategories

/-- Methods of one name differ in arity, so among those without parameters each has its own name. -/
theorem nodup_names_of_bare {methods : List Method}
    (distinct : methods.Pairwise fun m n => (m.name, m.arity) ≠ (n.name, n.arity))
    {keep : Method → Bool} (bare : ∀ m, keep m = true → m.params = []) :
    ((methods.filter keep).map (·.name)).Nodup := by
  refine List.pairwise_map.2 ((distinct.filter _).imp_of_mem ?_)
  intro m n memM memN apart name
  have bareM := bare m (List.mem_filter.1 memM).2
  have bareN := bare n (List.mem_filter.1 memN).2
  exact apart (by rw [name, Method.arity, Method.arity, bareM, bareN])

/-- The getter of the backing resource answers it and changes nothing. -/
theorem read_of_backingResource
    (backing : m.category (w.factoryOf a).settings = .backingResource) :
    w.read a m = (w, .ok (.resource a.resource)) :=
  if_pos backing

/-- What a getter has answered it answers from then on. -/
theorem Getter.read_of_answered {name : String} {arity : Nat} {v : Value}
    (h : Getter w a name arity m) (read : w.read a m = (u, .ok v)) (later : Run u w') :
    w'.read a m = (w', .ok v) := by
  have whole : Run w w' := (run_of_read read).trans later
  obtain ⟨address, located, kept⟩ := h.cached_of_read read
  rw [← h.factoryOf_of_run whole] at located
  exact (h.of_run whole).read_of_cached located (later.grows.answers a _ v kept)

namespace Listed

/-- A listed method is a getter with an address, or that of the backing resource. -/
theorem getter_or_backing (h : Listed w a m) :
    Getter w a m.name 0 m ∨ m.category (w.factoryOf a).settings = .backingResource := by
  have category := h.category
  simp only [listedCategories, List.mem_cons, List.not_mem_nil, or_false] at category
  rcases category with property | reference | children | backing
  · exact .inl ⟨h.made, h.found, by rw [property]; rfl⟩
  · exact .inl ⟨h.made, h.found, by rw [reference]; rfl⟩
  · exact .inl ⟨h.made, h.found, by rw [children]; rfl⟩
  · exact .inr backing

/-- The adapter keeps its factory over a run. -/
theorem factoryOf_of_run (h : Listed w a m) (run : Run w w') : w'.factoryOf a = w.factoryOf a :=
  run.grows.factory a.id h.made

theorem of_run (h : Listed w a m) (run : Run w w') : Listed w' a m where
  made := Nat.lt_of_lt_of_le h.made run.grows.made
  found := by rw [h.factoryOf_of_run run, h.found]
  category := by rw [h.factoryOf_of_run run]; exact h.category

/-- A call by the name of a listed method reads that method. -/
theorem readNamed_eq (h : Listed w a m) : w.readNamed a m.name = w.read a m := by
  rw [readNamed, h.found]

/-- A call is answered however few calls may nest in it. -/
theorem dispatch_eq (h : Listed w a m) (depth : Nat) :
    dispatch (depth + 1) w a m.name [] = some (w.read a m) := by
  rcases h.getter_or_backing with getter | backing
  · exact getter.dispatch_eq rfl depth
  · rw [dispatch]
    simp only [List.length_nil, h.found, backing]

/-- A listed method that answered once gives that answer ever after. -/
theorem read_of_answered (h : Listed w a m) {v : Value} (read : w.read a m = (u, .ok v))
    (later : Run u w') : w'.read a m = (w', .ok v) := by
  rcases h.getter_or_backing with getter | backing
  · exact getter.read_of_answered read later
  · have whole : Run w w' := (run_of_read read).trans later
    rw [read_of_backingResource backing] at read
    cases read
    rw [← h.factoryOf_of_run whole] at backing
    exact read_of_backingResource backing

end Listed

/-! ## Asking one after the other -/

/-- Calls without arguments, one after the other, of methods that answer to their names, with the
outcome of each. -/
inductive Asks (a : Adapter) : World → List (Method × Outcome) → World → Prop where
  | nil (w : World) : Asks a w [] w
  | cons {w u v : World} {m : Method} {outcome : Outcome} {rest : List (Method × Outcome)}
      (found : lookup a (w.factoryOf a).settings m.name 0 = .ok m)
      (called : ∀ depth, dispatch (depth + 1) w a m.name [] = some (u, outcome))
      (later : Asks a u rest v) : Asks a w ((m, outcome) :: rest) v

namespace Asks
variable {asked : List (Method × Outcome)}

theorem run (h : Asks a w asked u) : Run w u := by
  induction h with
  | nil w => exact .refl
  | cons _ called _ ih => exact (run_of_dispatch (called 0)).trans ih

/-- The value that a listed method gave when it was asked is its answer from then on. -/
theorem read_of_mem (h : Asks a w asked u) (listed : ∀ s ∈ asked, Listed w a s.1) {v : Value}
    (mem : (m, .ok v) ∈ asked) (later : Run u w') : w'.read a m = (w', .ok v) := by
  induction h with
  | nil w => cases mem
  | @cons w x y n outcome rest found called others ih =>
    have first : Listed w a n := listed _ List.mem_cons_self
    have read : w.read a n = (x, outcome) := by
      rw [← Option.some_inj, ← first.dispatch_eq 0, called 0]
    rcases List.mem_cons.1 mem with same | mem
    · obtain ⟨rfl, rfl⟩ := Prod.mk.inj same
      exact first.read_of_answered read (others.run.trans later)
    · have listed' : ∀ s ∈ rest, Listed x a s.1 := by
        intro s inside
        exact (listed s (List.mem_cons_of_mem _ inside)).of_run (run_of_read read)
      exact ih listed' mem later

end Asks

/-- The entry for what a call of a method has come to, on a line of its own: the text of the value in
braces, or the kind of the error and its message. -/
inductive Shows (name : String) : Outcome → String → Prop where
  | value (v : Value) : Shows name (.ok v) ("\n\t" ++ name ++ " = \x7b" ++ v.text ++ "\x7d")
  | failure (e : AdapterError) :
      Shows name (.error e) ("\n\t" ++ name ++ " = " ++ e.kind ++ ": " ++ e.message)

theorem shows_entryText (name : String) (outcome : Outcome) :
    Shows name outcome (entryText name outcome) := by
  cases outcome with
  | ok v => exact .value v
  | error e => exact .failure e

/-- The entries are those of calls of the methods, whatever these come to. -/
theorem exists_entries {methods : List Method} (listed : ∀ m ∈ methods, Listed w a m) :
    ∃ u asked texts, w.entries a methods = (u, texts) ∧
      List.Forall₂ (fun s text => Shows s.1.name s.2 text) asked texts ∧
      asked.map (·.1) = methods ∧ Asks a w asked u := by
  induction methods generalizing w with
  | nil => exact ⟨w, [], [], rfl, .nil, rfl, .nil w⟩
  | cons m rest ih =>
    have first : Listed w a m := listed m List.mem_cons_self
    rcases read : w.read a m with ⟨x, outcome⟩
    have listed' : ∀ n ∈ rest, Listed x a n := by
      intro n mem
      exact (listed n (List.mem_cons_of_mem m mem)).of_run (run_of_read read)
    obtain ⟨u, asked, texts, eq, shown, methods, later⟩ := ih listed'
    refine ⟨u, (m, outcome) :: asked, entryText m.name outcome :: texts, ?_, ?_, ?_, ?_⟩
    · rw [entries, first.readNamed_eq, read]
      simp only [eq]
    · exact .cons (shows_entryText m.name outcome) shown
    · rw [List.map_cons, methods]
    · refine .cons first.found (fun depth => ?_) later
      rw [first.dispatch_eq, read]

/-- Unless an interface gives `toString` an accessor, a call of it answers with the description,
whatever its arguments. -/
theorem dispatch_toString {args : List Value}
    (plain : ∀ m, a.interface.method? "toString" args.length = some m → m.accessor = none)
    (depth : Nat) (w : World) :
    dispatch (depth + 1) w a "toString" args =
      some ((w.describe a).1, .ok (.string (w.describe a).2)) := by
  have named : IdentityMethod.ofName? "toString" = some .toString := rfl
  obtain ⟨m, found, category⟩ := exists_lookup_of_identity named plain (w.factoryOf a).settings
  rw [dispatch]
  simp only [found, category]

/-- The description of an adapter that was built from a registry, at any time and with the trees as
they are by then. It names the exposed interfaces in order, and then has one entry for each method
without parameters that is a getter or gives the backing resource, in the order of the table. They
have different names, so each entry is what a call of its own method has come to: the text of the
value, or the failure. `toString` answers the description, unless metadata is attached to it, and a
value in it is what its method answers from then on. Every call is a run, and so is any sequence of
calls, iterations and changes of trees. -/
theorem describe_freezes {R : Registry} (made : R.Made) {target : String}
    (built : BuiltFrom R w a target) :
    (∀ depth u b method args u' outcome,
      dispatch depth u b method args = some (u', outcome) → Run u u') ∧
    ∃ (w' : World) (names : List String) (asked : List (Method × Outcome)) (texts : List String),
      w.describe a = (w', "Implements: [" ++ " , ".intercalate names ++ "]\nGet Method Values:" ++
        String.join texts) ∧
      List.Forall₂ (fun s text => Shows s.1.name s.2 text) asked texts ∧
      (∀ args : List Value,
        (∀ m, a.interface.method? "toString" args.length = some m → m.accessor = none) →
        ∀ depth, dispatch (depth + 1) w a "toString" args =
          some (w', .ok (.string (w.describe a).2))) ∧
      names.Pairwise (· < ·) ∧
      (∀ name, name ∈ names ↔ a.interface.implements name = true) ∧
      asked.map (·.1) = a.interface.methods.filter (fun m =>
        m.params = [] ∧ m.category (w.factoryOf a).settings ∈ listedCategories) ∧
      (asked.map (·.1.name)).Nodup ∧
      Asks a w asked w' ∧
      ∀ m v, (m, .ok v) ∈ asked → ∀ u, Run w' u →
        ∀ depth, dispatch (depth + 1) u a m.name [] = some (u, .ok v) := by
  refine ⟨?_, ?_⟩
  · intro depth u b method args u' outcome called
    exact run_of_dispatch called
  obtain ⟨alive, -, registered⟩ := built.spec
  obtain ⟨ds, held⟩ := made.exists_holds
  let methods := a.interface.methods.filter fun m =>
    m.params = [] ∧ m.category (w.factoryOf a).settings ∈ listedCategories
  have listed (m : Method) (mem : m ∈ methods) : Listed w a m := by
    obtain ⟨declared, shown⟩ := List.mem_filter.1 mem
    obtain ⟨bare, category⟩ := of_decide_eq_true shown
    have found := lookup_of_mem made registered declared (w.factoryOf a).settings
    rw [Method.arity, bare] at found
    exact ⟨alive, found, category⟩
  have same : a.interface.methods.filter (isListed (w.factoryOf a).settings) = methods := by
    refine List.filter_congr fun m _ => ?_
    rw [Bool.eq_iff_iff, isListed_iff, decide_eq_true_eq]
  obtain ⟨w', asked, texts, entries, shown, inOrder, asks⟩ := exists_entries listed
  have described : w.describe a = (w', "Implements: [" ++
      " , ".intercalate a.interface.exposed.keys ++ "]\nGet Method Values:" ++
        String.join texts) := by
    rw [describe, same]
    simp only [entries]
  have listed' (s : Method × Outcome) (mem : s ∈ asked) : Listed w a s.1 := by
    refine listed s.1 ?_
    rw [← inOrder]
    exact List.mem_map_of_mem mem
  refine ⟨w', a.interface.exposed.keys, asked, texts, described, shown, ?_, ?_, ?_, inOrder, ?_,
    asks, ?_⟩
  · intro args plain depth
    rw [dispatch_toString plain, described]
  · exact List.pairwise_map.2 a.interface.exposed.ordered
  · intro name
    exact NameMap.mem_keys_iff
  · have names : asked.map (·.1.name) = methods.map (·.name) := by
      rw [← inOrder, List.map_map]
      rfl
    rw [names]
    exact nodup_names_of_bare (held.methodsDistinct registered) fun m keep =>
      (of_decide_eq_true keep).1
  · intro m v mem u later depth
    have kept : u.read a m = (u, .ok v) := asks.read_of_mem listed' mem later
    rw [((listed' _ mem).of_run (asks.run.trans later)).dispatch_eq, kept]

/-- A page with a title and a rank that is no number. The title is described as it is, and stays
that whatever becomes of the tree. -/
theorem describe_freezes_rank :
    let title : Method := ⟨"getTitle", [], some .string, none, "Page"⟩
    let rank : Method := ⟨"getRank", [], some .long, none, "Page"⟩
    let node : Method := ⟨"getBackingResource", [], none, none, "Page"⟩
    let page : Declaration := ⟨"Page", [], [title, rank, node], []⟩
    let R := Registry.empty.attempt page
    let f := { (default : Factory) with registry := R }
    let document : Json :=
      .object [("p", .object [("title", .string "x"), ("rank", .string "high")])]
    let t := (Tree.ofJson document).toOption.getD Tree.empty
    let r : Resource := ⟨0, Path.root.child ⟨"p", by decide⟩⟩
    let built := (ofTrees [t]).newAdapter f (Interface.ofDeclaration page []) r
    let w := built.1
    let a := built.2
    BuiltFrom R w a "Page" ∧
      (w.describe a).2 = "Implements: [Page]\nGet Method Values:\n\tgetTitle = \x7bx\x7d" ++
        "\n\tgetRank = CoercionError: cannot coerce String to Long" ++
        "\n\tgetBackingResource = \x7bResource(/p)\x7d" ∧
      ∃ v : Value, v.text = "x" ∧ ∀ t depth,
        let u := (w.describe a).1.setTree 0 t
        dispatch (depth + 1) u a "getTitle" [] = some (u, .ok v) := by
  intro title rank node page R f document t r built w a
  have made : R.Made := .attempt .empty page
  have fit : f.interface "Page" = .ok (Interface.ofDeclaration page []) :=
    Factory.interface_eq_ok_iff.2 (by decide +kernel)
  have here : (ofTrees [t]).holds r = true := by decide +kernel
  have adapted : (ofTrees [t]).adapt f r "Page" = .ok (w, a) :=
    adapt_eq_ok_iff.2 ⟨here, _, fit, rfl⟩
  have fromPage : BuiltFrom R w a "Page" := .direct rfl adapted
  refine ⟨fromPage, by decide +kernel, ?_⟩
  obtain ⟨-, w', names, asked, texts, described, -, -, -, -, inOrder, -, asks, freezes⟩ :=
    describe_freezes made fromPage
  have listed : a.interface.methods.filter (fun m =>
      m.params = [] ∧ m.category (w.factoryOf a).settings ∈ listedCategories) =
        [title, rank, node] := by
    decide +kernel
  have answer : (dispatch 1 w a "getTitle" []).bind (·.2.toOption.map Value.text) = some "x" := by
    decide +kernel
  rw [listed] at inOrder
  cases asks with
  | nil => cases inOrder
  | @cons _ u _ m outcome rest _ called later =>
    obtain rfl : m = title := (List.cons.inj inOrder).1
    rw [called 0, Option.bind_some] at answer
    cases outcome with
    | error e => cases answer
    | ok v =>
      refine ⟨v, Option.some.inj answer, fun t depth => ?_⟩
      rw [described]
      exact freezes title v List.mem_cons_self _ (.single (.tree w' 0 t)) depth

end TreeAdapter.World
