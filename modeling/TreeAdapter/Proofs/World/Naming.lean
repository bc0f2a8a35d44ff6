import TreeAdapter.Loading
import TreeAdapter.Proofs.DeclaredType
import TreeAdapter.Proofs.Registry.Inheritance
import TreeAdapter.Proofs.World.Making
import TreeAdapter.Value.Cast

/-!
# Interfaces named by types

A name is registered as it is written, with the white space around it (`register`); a type is read
without (`from_str`). So the type that is written with the name of an interface names it exactly
when there is no white space around the name (`DeclaredType.exists_parse_iff`), and then a resource
becomes an adapter of it; otherwise no type at all leads to it. The registry may have been made in
any way, from a file (`Registry.made_of_ofYamlText`) too.

* `World.type_names_interface` — what the types lead to that can be written
-/

namespace TreeAdapter
set_option autoImplicit false

namespace DeclaredType
open Text

theorem elementOf_append_of_ne (cs : List Char) {c : Char} (h : c ≠ ']') :
    elementOf (cs ++ [c]) = none := by
  unfold elementOf
  split
  · next rest reversed =>
    rw [List.reverse_append, List.reverse_singleton, List.singleton_append] at reversed
    exact absurd (List.cons.inj reversed).1 h
  · rfl

theorem identifier_of_isInterfaceName {n : String} (h : Registry.isInterfaceName n = true) :
    identifier n.toList = .ok (trim n) := by
  unfold Registry.isInterfaceName at h
  split at h
  · next m read =>
    have trimmed := (identifier_eq_ok_iff.1 read).1
    rw [read, trim, trimmed, String.ofList_toList]
  · cases h

/-- The type that is written with a name for an interface. -/
theorem parse_adapter {n : String} (h : Registry.isInterfaceName n = true) :
    parse ("Adapter<" ++ n ++ ">") = .ok (adapter (trim n)) := by
  have whole : ("Adapter<" ++ n ++ ">").toList = "Adapter<".toList ++ n.toList ++ ['>'] := by simp
  have opening : IsTrimmed "Adapter<".toList := by decide
  have trimmed : IsTrimmed ("Adapter<".toList ++ n.toList ++ ['>']) :=
    opening.append (by decide) n.toList (by decide)
  have inner : argumentOf "Adapter" ("Adapter<".toList ++ n.toList ++ ['>']) = some n.toList := by
    simp [argumentOf]
  rw [parse, whole, parseChars_scalar trimmed (elementOf_append_of_ne _ (by decide)), parseScalar,
    inner]
  show (identifier n.toList).map adapter = _
  rw [identifier_of_isInterfaceName h]
  rfl

theorem trim_of_identifier {n : String} (named : identifier n.toList = .ok n) : trim n = n := by
  rw [trim, (identifier_eq_ok_iff.1 named).1, String.ofList_toList]

theorem exists_parse_iff {n : String} (h : Registry.isInterfaceName n = true) :
    (∃ s, parse s = .ok (adapter n)) ↔ trim n = n := by
  constructor
  · rintro ⟨s, read⟩
    exact trim_of_identifier (wellNamed_of_parse read)
  · intro trimmed
    refine ⟨"Adapter<" ++ n ++ ">", ?_⟩
    rw [parse_adapter h, trimmed]

/-- What a type is looked up by has no white space around it. -/
theorem trim_targetName {s : String} {t : DeclaredType} (h : parse s = .ok t) :
    trim t.targetName = t.targetName := by
  have named := wellNamed_of_parse h
  have text : trim t.text = t.text := by
    rw [trim, (isTrimmed_text named).2.trimChars_eq, String.ofList_toList]
  cases t with
  | adapter n => exact trim_of_identifier named
  | object n => exact trim_of_identifier named
  | _ => exact text

end DeclaredType

namespace Registry
variable {R : Registry} {n : String} {i : Interface}

/-- The registry of a file is made from the list of its declarations. -/
theorem made_of_ofYamlText {text : String} (h : ofYamlText text = .ok R) : R.Made := by
  unfold ofYamlText at h
  split at h
  · cases h
  · split at h
    · cases h
    · next declarations _ =>
      cases run : ofDeclarations declarations with
      | error e =>
        rw [run] at h
        cases h
      | ok r =>
        rw [run] at h
        cases h
        exact .ofDeclarations run

theorem Holds.isInterfaceName {ds : List Declaration} (h : R.Holds ds)
    (registered : R.get? n = some i) : isInterfaceName n = true := by
  obtain ⟨d, mem, rfl⟩ :=
    List.mem_map.1 ((h.contains_iff n).1 (Registry.contains_iff.2 ⟨i, registered⟩))
  exact (h.sound d mem).named

end Registry

namespace World
variable {R : Registry} {n : String} {i : Interface}
open DeclaredType

theorem materialize_of_interface {w : World} {f : Factory} {r : Resource}
    (other : (w.tree r.tree).adapt? r.path n = none) (present : w.holds r = true)
    (fit : f.interface n = .ok i) : w.materialize f r (.adapter n) =
      ((w.newAdapter f i r).1, .adapter (w.newAdapter f i r).2) := by
  have noObject : w.adaptObject r n = none := by rw [adaptObject, other, Option.map_none]
  have built : w.adapt f r n = .ok (w.newAdapter f i r) := by
    rw [adapt_of_holds present, fit]
    rfl
  rw [materialize, if_neg DeclaredType.noConfusion, DeclaredType.targetName, noObject, built]

/-- What types make of the name of a registered interface. The type that is written with it names
the interface without the white space around the name, so the interface itself has a type exactly
when there is none. Then each resource that is there, and of which the tree gives no object, becomes
an adapter of the interface, if one can be built; otherwise no resource becomes one by any type. -/
theorem type_names_interface (made : R.Made) (registered : R.get? n = some i) :
    parse ("Adapter<" ++ n ++ ">") = .ok (.adapter (Text.trim n)) ∧
    ((∃ s, parse s = .ok (.adapter n)) ↔ Text.trim n = n) ∧
    ∀ (w : World) (f : Factory) (r : Resource), f.registry = R →
      (Text.trim n = n → i.isAdaptable f.settings = true →
        (∀ m ∈ i.methods, f.unknownFilter? m = none) → w.holds r = true →
        (w.tree r.tree).adapt? r.path n = none →
        ∃ a, (w.materialize f r (.adapter n)).2 = .adapter a ∧ a.interface = i ∧ a.resource = r ∧
          (Value.adapter a).isAssignable (.adapter n) = true) ∧
      (Text.trim n ≠ n → ∀ s t, parse s = .ok t →
        ∀ a, (w.materialize f r t).2 = .adapter a → a.interface ≠ i) := by
  obtain ⟨ds, held⟩ := made.exists_holds
  have named := held.isInterfaceName registered
  have own : i.name = n := held.name_eq registered
  refine ⟨parse_adapter named, exists_parse_iff named, ?_⟩
  intro w f r based
  constructor
  · intro _ adaptable known present other
    have fit : f.interface n = .ok i :=
      Factory.interface_eq_ok_iff.2 ⟨by rw [based, registered], adaptable, known⟩
    refine ⟨⟨w.adapters.size, i, r⟩, ?_, rfl, rfl, ?_⟩
    · rw [materialize_of_interface other present fit]
      rfl
    · show i.implements n = true
      exact (held.implements_iff registered).2 .refl
  · intro padded s t read a result same
    have built : w.adapt f r t.targetName = .ok ((w.materialize f r t).1, a) :=
      adapt_of_materialize (Prod.ext rfl result)
    obtain ⟨-, -, found, -⟩ := built_of_adapt built
    rw [based, same] at found
    have target : i.name = t.targetName := held.name_eq found
    apply padded
    rw [← own, target, trim_targetName read]

/-- Two interfaces of one name, the second with white space around it, which no type leads to. -/
theorem type_names_interface_padded :
    let title : Method := ⟨"getTitle", [], some .string, none, ""⟩
    let page : Declaration := ⟨"Page", [], [title], []⟩
    let padded : Declaration := ⟨" Page ", [], [title], []⟩
    let f := { (default : Factory) with registry := (Registry.empty.attempt page).attempt padded }
    let w := ofTrees [Tree.empty]
    let r : Resource := ⟨0, Path.root⟩
    parse "Adapter<Page>" = .ok (.adapter "Page") ∧
      (∃ a, (w.materialize f r (.adapter "Page")).2 = .adapter a ∧
        a.interface = Interface.ofDeclaration page [] ∧ a.resource = r ∧
        (Value.adapter a).isAssignable (.adapter "Page") = true) ∧
      parse "Adapter< Page >" = .ok (.adapter "Page") ∧
      ∀ s t, parse s = .ok t → ∀ a, (w.materialize f r t).2 = .adapter a →
        a.interface ≠ Interface.ofDeclaration padded [] := by
  intro title page padded f w r
  have made : f.registry.Made := .attempt (.attempt .empty page) padded
  have trimmed : Text.trim "Page" = "Page" ∧ Text.trim " Page " = "Page" := by decide +kernel
  have first : f.registry.get? "Page" = some (Interface.ofDeclaration page []) := by decide +kernel
  have second : f.registry.get? " Page " = some (Interface.ofDeclaration padded []) := by
    decide +kernel
  obtain ⟨named, -, reached⟩ := type_names_interface made first
  obtain ⟨shared, -, missed⟩ := type_names_interface made second
  rw [trimmed.1] at named
  rw [trimmed.2] at shared
  refine ⟨named, ?_, shared, ?_⟩
  · exact (reached w f r rfl).1 trimmed.1 (by decide +kernel) (by decide +kernel) rfl rfl
  · refine (missed w f r rfl).2 ?_
    rw [trimmed.2]
    decide

end World
end TreeAdapter
