import TreeAdapter.NameMap

/-!
# Laws of maps from names

A map is its look-up function: `get?_insert` says what an update does to it, and `ext_get?` that two
maps with the same look-ups are equal. Sets of names are maps to nothing, and `contains_union` reads
their union as a disjunction.
-/

namespace TreeAdapter.NameMap
set_option autoImplicit false
variable {α : Type}

theorem mem_entries_of_get? {m : NameMap α} {name : String} {value : α}
    (h : m.get? name = some value) : (name, value) ∈ m.entries := by
  obtain ⟨e, he, rfl⟩ := Option.map_eq_some_iff.1 h
  have key : e.1 = name := by simpa using List.find?_some he
  have mem := List.mem_of_find?_eq_some he
  rw [← key]
  exact mem

/-- Each name stands once, so an entry is what the look-up finds. -/
theorem find?_entry {entries : List (String × α)} {e : String × α}
    (ordered : entries.Pairwise fun a b => a.1 < b.1) (h : e ∈ entries) :
    entries.find? (·.1 == e.1) = some e := by
  induction entries with
  | nil => simp at h
  | cons a rest ih =>
    obtain ⟨first, tail⟩ := List.pairwise_cons.1 ordered
    rcases List.mem_cons.1 h with rfl | h
    · simp
    · have ne : a.1 ≠ e.1 := fun eq => String.lt_irrefl e.1 (eq ▸ first e h)
      rw [List.find?_cons_of_neg (by simpa using ne)]
      exact ih tail h

/-- The names of a map are distinct, so every entry is found. -/
theorem get?_eq_some_iff {m : NameMap α} {name : String} {value : α} :
    m.get? name = some value ↔ (name, value) ∈ m.entries := by
  constructor
  · exact mem_entries_of_get?
  · intro h
    rw [get?, find?_entry m.ordered h]
    rfl

/-- Two maps with the same look-ups are equal: both are ordered by the same strict order. -/
theorem ext_get? {m n : NameMap α} (h : ∀ name, m.get? name = n.get? name) : m = n := by
  have asymm : ∀ a b : String × α, a.1 < b.1 → b.1 < a.1 → a = b := fun a b hab hba =>
    absurd (String.lt_trans hab hba) (String.lt_irrefl a.1)
  have nodup (k : NameMap α) : k.entries.Nodup := by
    refine k.ordered.imp ?_
    rintro a b lt rfl
    exact String.lt_irrefl a.1 lt
  have perm : m.entries.Perm n.entries := by
    refine (List.perm_ext_iff_of_nodup (nodup m) (nodup n)).2 fun e => ?_
    obtain ⟨name, value⟩ := e
    rw [← get?_eq_some_iff, ← get?_eq_some_iff, h]
  have same : m.entries = n.entries :=
    perm.eq_of_pairwise (fun a b _ _ => asymm a b) m.ordered n.ordered
  cases m
  cases n
  simpa using same

/-- The look-up in a list of entries. -/
def lookup (key : String) (entries : List (String × α)) : Option α :=
  (entries.find? (·.1 == key)).map (·.2)

theorem lookup_cons (key k : String) (v : α) (rest : List (String × α)) :
    lookup key ((k, v) :: rest) = if k = key then some v else lookup key rest := by
  by_cases h : k = key <;> simp [lookup, h]

theorem lookup_insertEntry (name key : String) (value : α) (entries : List (String × α)) :
    lookup key (insertEntry name value entries) =
      if name = key then some value else lookup key entries := by
  induction entries with
  | nil => exact lookup_cons key name value []
  | cons a rest ih =>
    obtain ⟨k, v⟩ := a
    simp only [insertEntry]
    split
    · exact lookup_cons key name value _
    · split
      · next eq =>
        subst eq
        by_cases h : name = key <;> simp [lookup_cons, h]
      · next ne =>
        rw [lookup_cons, lookup_cons, ih]
        by_cases h : k = key
        · simp [h, show name ≠ key from fun eq => ne (eq.trans h.symm)]
        · simp [h]

/-- A value just inserted is the one found, and the others stay. -/
theorem get?_insert (m : NameMap α) (name key : String) (value : α) :
    (m.insert name value).get? key = if name = key then some value else m.get? key :=
  lookup_insertEntry name key value m.entries

theorem contains_eq_isSome (m : NameMap α) (name : String) :
    m.contains name = (m.get? name).isSome := by
  rw [contains, get?, Option.isSome_map, List.isSome_find?]

theorem contains_iff {m : NameMap α} {name : String} :
    m.contains name = true ↔ ∃ value, m.get? name = some value := by
  rw [contains_eq_isSome, Option.isSome_iff_exists]

theorem contains_insert (m : NameMap α) (name key : String) (value : α) :
    (m.insert name value).contains key = true ↔ name = key ∨ m.contains key = true := by
  rw [contains_eq_isSome, contains_eq_isSome, get?_insert]
  by_cases h : name = key <;> simp [h]

theorem mem_keys_iff {m : NameMap α} {name : String} :
    name ∈ m.keys ↔ m.contains name = true := by
  simp [keys, contains]

end TreeAdapter.NameMap

namespace TreeAdapter.NameSet
set_option autoImplicit false

theorem contains_insert (s : NameSet) (name key : String) :
    (s.insert name).contains key = true ↔ name = key ∨ s.contains key = true :=
  NameMap.contains_insert s name key ()

theorem contains_singleton (name key : String) :
    (singleton name).contains key = true ↔ name = key := by
  rw [singleton, contains_insert]
  simp [NameMap.contains, NameMap.empty]

theorem contains_foldl_insert (names : List String) (s : NameSet) (key : String) :
    (names.foldl insert s).contains key = true ↔ s.contains key = true ∨ key ∈ names := by
  induction names generalizing s with
  | nil => simp
  | cons name rest ih =>
    rw [List.foldl_cons, ih, contains_insert, List.mem_cons, eq_comm, or_assoc, or_left_comm]

theorem contains_union (s t : NameSet) (key : String) :
    (s.union t).contains key = true ↔ s.contains key = true ∨ t.contains key = true := by
  rw [union, contains_foldl_insert, NameMap.mem_keys_iff]

end TreeAdapter.NameSet
