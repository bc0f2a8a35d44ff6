/-!
# Maps from names in order

A map from names to values, kept in the order of the names (by code point, which is also the
order of their UTF-8 bytes) and with each name once. Two maps with the same bindings are equal.
-/

namespace TreeAdapter
set_option autoImplicit false

/-- Bindings in ascending order of their names. -/
structure NameMap (α : Type) where
  entries : List (String × α)
  ordered : entries.Pairwise fun a b => a.1 < b.1

namespace NameMap
variable {α : Type}

instance [DecidableEq α] : DecidableEq (NameMap α) := fun a b =>
  decidable_of_iff (a.entries = b.entries) (by cases a; cases b; simp)

def empty : NameMap α := ⟨[], .nil⟩

instance : Inhabited (NameMap α) := ⟨empty⟩

/-- The value bound to `name`. -/
def get? (m : NameMap α) (name : String) : Option α :=
  (m.entries.find? (·.1 == name)).map (·.2)

def contains (m : NameMap α) (name : String) : Bool :=
  m.entries.any (·.1 == name)

def keys (m : NameMap α) : List String :=
  m.entries.map (·.1)

def values (m : NameMap α) : List α :=
  m.entries.map (·.2)

def size (m : NameMap α) : Nat :=
  m.entries.length

def isEmpty (m : NameMap α) : Bool :=
  m.entries.isEmpty

/-- A binding put into its place, instead of an earlier one of that name. -/
def insertEntry (name : String) (value : α) : List (String × α) → List (String × α)
  | [] => [(name, value)]
  | (k, v) :: rest =>
    if name < k then (name, value) :: (k, v) :: rest
    else if name = k then (name, value) :: rest
    else (k, v) :: insertEntry name value rest

theorem mem_insertEntry {name : String} {value : α} {entries : List (String × α)}
    {e : String × α} (h : e ∈ insertEntry name value entries) : e = (name, value) ∨ e ∈ entries := by
  induction entries with
  | nil => simpa [insertEntry] using h
  | cons a rest ih =>
    obtain ⟨k, v⟩ := a
    simp only [insertEntry] at h
    split at h
    · simpa using h
    · split at h
      · rcases List.mem_cons.1 h with h | h
        · exact .inl h
        · exact .inr (List.mem_cons_of_mem _ h)
      · rcases List.mem_cons.1 h with h | h
        · exact .inr (h ▸ List.mem_cons_self)
        · exact (ih h).imp_right (List.mem_cons_of_mem _)

theorem ordered_insertEntry {name : String} {value : α} {entries : List (String × α)}
    (h : entries.Pairwise fun a b => a.1 < b.1) :
    (insertEntry name value entries).Pairwise fun a b => a.1 < b.1 := by
  induction entries with
  | nil => simp [insertEntry]
  | cons a rest ih =>
    obtain ⟨k, v⟩ := a
    obtain ⟨hk, hr⟩ := List.pairwise_cons.1 h
    simp only [insertEntry]
    split
    · next lt =>
      refine List.pairwise_cons.2 ⟨fun e he => ?_, h⟩
      rcases List.mem_cons.1 he with rfl | he
      · exact lt
      · exact String.lt_trans lt (hk e he)
    · next nlt =>
      split
      · next eq => exact List.pairwise_cons.2 ⟨fun e he => eq ▸ hk e he, hr⟩
      · next ne =>
        refine List.pairwise_cons.2 ⟨fun e he => ?_, ih hr⟩
        rcases mem_insertEntry he with rfl | he
        · exact Decidable.not_not.1 fun ge =>
            ne (String.le_antisymm (String.not_lt.1 ge) (String.not_lt.1 nlt))
        · exact hk e he

def insert (m : NameMap α) (name : String) (value : α) : NameMap α :=
  ⟨insertEntry name value m.entries, ordered_insertEntry m.ordered⟩

/-- The map without `name`. -/
def erase (m : NameMap α) (name : String) : NameMap α :=
  ⟨m.entries.filter (·.1 != name), m.ordered.filter _⟩

/-- The bindings of a list, the last one of a name winning. -/
def ofList (entries : List (String × α)) : NameMap α :=
  entries.foldl (fun m e => m.insert e.1 e.2) empty

end NameMap

/-- A set of names in order. -/
abbrev NameSet := NameMap Unit

namespace NameSet

def insert (s : NameSet) (name : String) : NameSet :=
  NameMap.insert s name ()

/-- The names of both sets. -/
def union (s t : NameSet) : NameSet :=
  t.keys.foldl insert s

def singleton (name : String) : NameSet :=
  insert NameMap.empty name

end NameSet
end TreeAdapter
