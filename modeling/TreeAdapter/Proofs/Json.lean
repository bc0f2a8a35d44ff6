import Mathlib.Data.List.Nodup
import TreeAdapter.Json.Value

/-!
# Laws of documents

A document is merged as its objects are read: a member that is written again takes the value of the
last. Merging leaves each name once in every object (`distinct_merged`), and where a name stands
once its member is what the look-up finds (`member?_eq_some_iff`).
-/

namespace TreeAdapter.Json
set_option autoImplicit false

def isNull : Json → Bool
  | null => true
  | _ => false

theorem isNull_iff {j : Json} : j.isNull = true ↔ j = null := by
  cases j <;> simp [isNull]

/-- Each object has each name once, however deep it stands. -/
inductive Distinct : Json → Prop where
  | null : Distinct null
  | bool (b : Bool) : Distinct (bool b)
  | integer (n : Int) : Distinct (integer n)
  | float (x : Double) : Distinct (float x)
  | string (s : String) : Distinct (string s)
  | array {items : List Json} (each : ∀ item ∈ items, Distinct item) : Distinct (array items)
  | object {members : List (String × Json)} (once : (members.map (·.1)).Nodup)
      (each : ∀ m ∈ members, Distinct m.2) : Distinct (object members)

namespace Distinct
variable {items : List Json} {members : List (String × Json)}

theorem item (h : Distinct (.array items)) {j : Json} (mem : j ∈ items) : Distinct j := by
  cases h with
  | array each => exact each j mem

theorem once (h : Distinct (.object members)) : (members.map (·.1)).Nodup := by
  cases h with
  | object once _ => exact once

theorem member (h : Distinct (.object members)) {name : String} {value : Json}
    (mem : (name, value) ∈ members) : Distinct value := by
  cases h with
  | object _ each => exact each (name, value) mem

theorem tail {m : String × Json} (h : Distinct (.object (m :: members))) :
    Distinct (.object members) := by
  refine .object (List.nodup_cons.1 h.once).2 ?_
  intro n mem
  exact h.member (List.mem_cons_of_mem m mem)

end Distinct

/-! ## Look-up -/

theorem mem_of_member? {members : List (String × Json)} {name : String} {value : Json}
    (h : member? members name = some value) : (name, value) ∈ members := by
  obtain ⟨m, found, rfl⟩ := Option.map_eq_some_iff.1 h
  have named : m.1 = name := by simpa using List.find?_some found
  rw [← named]
  exact List.mem_of_find?_eq_some found

/-- Where each name stands once, a member is what the look-up finds. -/
theorem member?_eq_some_iff {members : List (String × Json)} (once : (members.map (·.1)).Nodup)
    {name : String} {value : Json} :
    member? members name = some value ↔ (name, value) ∈ members := by
  constructor
  · exact mem_of_member?
  · intro mem
    obtain ⟨other, found⟩ : ∃ other, member? members name = some other := by
      rw [member?, ← Option.isSome_iff_exists, Option.isSome_map, List.find?_isSome]
      exact ⟨(name, value), mem, beq_self_eq_true name⟩
    have same : (name, other) = (name, value) :=
      List.inj_on_of_nodup_map once (mem_of_member? found) mem rfl
    rw [found, (Prod.mk.inj same).2]

/-! ## Merging -/

/-- Setting a member keeps the order of the names, with a new one last. -/
theorem names_setMember (members : List (String × Json)) (name : String) (value : Json) :
    (setMember members name value).map (·.1) =
      if name ∈ members.map (·.1) then members.map (·.1) else members.map (·.1) ++ [name] := by
  have there : (members.any (·.1 == name)) = true ↔ name ∈ members.map (·.1) := by
    simp [List.any_eq_true, List.mem_map]
  rw [setMember]
  by_cases taken : name ∈ members.map (·.1)
  · rw [if_pos (there.2 taken), if_pos taken, List.map_map]
    refine List.map_congr_left fun m _ => ?_
    by_cases here : m.1 = name <;> simp [here]
  · rw [if_neg (mt there.1 taken), if_neg taken, List.map_append]
    rfl

/-- Setting a member repeats no name. -/
theorem distinct_setMember {members : List (String × Json)} {name : String} {value : Json}
    (h : Distinct (.object members)) (new : Distinct value) :
    Distinct (.object (setMember members name value)) := by
  refine .object ?_ ?_
  · rw [names_setMember]
    split
    · exact h.once
    · next absent =>
      rw [← List.concat_eq_append, List.nodup_concat]
      exact ⟨absent, h.once⟩
  · intro m mem
    rw [setMember] at mem
    split at mem
    · obtain ⟨old, inside, rfl⟩ := List.mem_map.1 mem
      split
      · exact new
      · exact h.member inside
    · rcases List.mem_append.1 mem with inside | last
      · exact h.member inside
      · rw [List.mem_singleton.1 last]
        exact new

mutual

/-- In a merged document no object repeats a name. -/
theorem distinct_merged (document : Json) : document.merged.Distinct := by
  cases document with
  | array items =>
    rw [merged]
    exact .array (distinct_mergedItems items)
  | object members =>
    rw [merged]
    have nothing : Distinct (.object []) := .object List.Pairwise.nil (by simp)
    exact distinct_mergedMembers nothing members
  | null => exact .null
  | bool b => exact .bool b
  | integer n => exact .integer n
  | float x => exact .float x
  | string s => exact .string s

theorem distinct_mergedItems (items : List Json) : ∀ item ∈ mergedItems items, Distinct item := by
  cases items with
  | nil => simp [mergedItems]
  | cons item rest =>
    rw [mergedItems, List.forall_mem_cons]
    exact ⟨distinct_merged item, distinct_mergedItems rest⟩

/-- Members merged into an object that repeats no name repeat none. -/
theorem distinct_mergedMembers {done : List (String × Json)} (h : Distinct (.object done))
    (members : List (String × Json)) : Distinct (.object (mergedMembers done members)) := by
  cases members with
  | nil => exact h
  | cons m rest =>
    obtain ⟨name, value⟩ := m
    rw [mergedMembers]
    exact distinct_mergedMembers (distinct_setMember h (distinct_merged value)) rest

end

end TreeAdapter.Json
