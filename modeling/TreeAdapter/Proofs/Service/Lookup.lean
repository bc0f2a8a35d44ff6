import Mathlib.Data.Bool.AllAny
import TreeAdapter.Proofs.Service.Filter

/-!
# Search for services

Clauses that are printed as a filter, with white space where it does not count, are read as the same
clauses (`Filter.parse_of_printed`). A search by them, `by_filter`, then finds the first entry of
the service that meets all of them, and `resolve` tries the pid of a binding, its filter and its
implementation in this order.

* `StaticLocator.finds_printed` — what a printed filter finds, and what a binding with it resolves
  to
-/

namespace TreeAdapter
set_option autoImplicit false
open Text

/-! ## Printing -/

namespace Clause

/-- A clause that a filter can be printed from: neither key nor value has white space at its ends
or a parenthesis in it, and the key is not empty and has none of the signs of filters. -/
structure IsPrintable (c : Clause) : Prop where
  named : c.key ≠ ""
  trimmedKey : IsTrimmed c.key.toList
  trimmedValue : IsTrimmed c.value.toList
  key : ∀ ch ∈ c.key.toList, isReserved ch = false ∧ ch ≠ '='
  value : ∀ ch ∈ c.value.toList, ¬Filter.IsParenthesis ch

instance : DecidablePred Filter.IsParenthesis := fun c =>
  inferInstanceAs (Decidable (c = '(' ∨ c = ')'))

/-- Key, `=` and value. -/
def inner (c : Clause) : List Char :=
  c.key.toList ++ '=' :: c.value.toList

/-- The clause in parentheses. -/
def printed (c : Clause) : List Char :=
  '(' :: c.inner ++ [')']

theorem IsPrintable.written {c : Clause} (h : c.IsPrintable) {ok : Char → Prop}
    (held : ∀ ch ∈ c.value.toList, ok ch) : c.Written ok c.inner := by
  have key : trimChars c.key.toList = c.key.toList := h.trimmedKey.trimChars_eq
  have value : trimChars c.value.toList = c.value.toList := h.trimmedValue.trimChars_eq
  have named : trimChars c.key.toList ≠ [] := by
    rw [key]
    exact fun empty => h.named (String.toList_eq_nil_iff.1 empty)
  have free : ∀ ch ∈ trimChars c.key.toList, isReserved ch = false := by
    rw [key]
    exact fun ch mem => (h.key ch mem).1
  have cut : '=' ∉ c.key.toList := fun mem => (h.key '=' mem).2 rfl
  have written := Written.intro cut named free held
  rwa [key, value, String.ofList_toList, String.ofList_toList] at written

theorem IsPrintable.value_ne_close {c : Clause} (h : c.IsPrintable) :
    ∀ ch ∈ c.value.toList, ch ≠ ')' :=
  fun ch mem close => h.value ch mem (.inr close)

end Clause

namespace Filter

/-- Clauses printed one after the other, with white space between them. -/
inductive PrintedAll : List Clause → List Char → Prop where
  | last (c : Clause) : PrintedAll [c] c.printed
  | cons (c : Clause) {clauses : List Clause} {gap rest : List Char}
      (blank : gap.all isBlank = true) (later : PrintedAll clauses rest) :
      PrintedAll (c :: clauses) (c.printed ++ (gap ++ rest))

/-- A filter that is printed from clauses: from a single one, or behind `&` from at least one, with
white space around it, behind `&` and around the clauses. -/
inductive Printed : List Clause → String → Prop where
  | single (c : Clause) {front back : List Char} (before : front.all isBlank = true)
      (behind : back.all isBlank = true) :
      Printed [c] (String.ofList (front ++ c.printed ++ back))
  | several {clauses : List Clause} {front gap text last back : List Char}
      (before : front.all isBlank = true) (first : gap.all isBlank = true)
      (all : PrintedAll clauses text) (close : last.all isBlank = true)
      (behind : back.all isBlank = true) :
      Printed clauses
        (String.ofList (front ++ ('(' :: ('&' :: (gap ++ text ++ last)) ++ [')']) ++ back))

theorem PrintedAll.listed {clauses : List Clause} {text : List Char} (h : PrintedAll clauses text)
    (printable : ∀ c ∈ clauses, c.IsPrintable) : Listed (· ≠ ')') text clauses := by
  induction h with
  | last c =>
    have own := printable c List.mem_cons_self
    exact .last (own.written own.value_ne_close)
  | cons c blank _ ih =>
    have own := printable c List.mem_cons_self
    have later := ih fun d mem => printable d (List.mem_cons_of_mem c mem)
    simpa [Clause.printed] using Listed.cons (own.written own.value_ne_close) blank later

theorem Printed.reads {clauses : List Clause} {filter : String} (h : Printed clauses filter)
    (printable : ∀ c ∈ clauses, c.IsPrintable) :
    Reads (fun _ => True) (· ≠ ')') filter clauses := by
  cases h with
  | single c before behind =>
    refine ⟨_, _, _, String.toList_ofList, before, behind, ?_⟩
    exact .single ((printable c List.mem_cons_self).written fun _ _ => trivial)
  | several before first all close behind =>
    refine ⟨_, _, _, String.toList_ofList, before, behind, ?_⟩
    exact .several first (all.listed printable) close

/-- Printed clauses are read back. -/
theorem parse_of_printed {clauses : List Clause} {filter : String} (h : Printed clauses filter)
    (printable : ∀ c ∈ clauses, c.IsPrintable) : parse filter = .ok clauses :=
  parse_eq_ok_iff.2 (h.reads printable)

end Filter

/-! ## Searching -/

section
variable {β : Type}

theorem Clause.holds_iff {c : Clause} {properties : NameMap String} :
    c.holds properties = true ↔ ∃ actual, properties.get? c.key = some actual ∧
      (c.value = "*" ∨ actual = c.value) := by
  unfold holds
  cases properties.get? c.key with
  | none => simp
  | some actual => simp

/-- An entry of a service that has, for each clause, the property with the value asked for, or with
any value when that is `*`. -/
def ServiceEntry.Meets (e : ServiceEntry β) (service : String) (clauses : List Clause) : Prop :=
  e.service = service ∧ ∀ c ∈ clauses, ∃ actual, e.properties.get? c.key = some actual ∧
    (c.value = "*" ∨ actual = c.value)

/-- An entry that a binding names by its pid. -/
def ServiceEntry.IsNamedBy (e : ServiceEntry β) (b : ServiceBinding) : Prop :=
  e.service = b.service ∧ ∃ pid, b.pid = some pid ∧ e.pid = some pid

namespace StaticLocator
variable (l : StaticLocator β)

/-- The service of the first entry that is `wanted`, and nothing when no entry is. -/
def FirstWith (wanted : ServiceEntry β → Prop) : Option β → Prop
  | some found => ∃ before e after, l.entries = before ++ e :: after ∧
      (∀ earlier ∈ before, ¬wanted earlier) ∧ wanted e ∧ e.build = found
  | none => ∀ e ∈ l.entries, ¬wanted e

theorem firstWith_find? {wanted : ServiceEntry β → Prop} {test : ServiceEntry β → Bool}
    (decides : ∀ e, test e = true ↔ wanted e) :
    l.FirstWith wanted ((l.entries.find? test).map (·.build)) := by
  cases search : l.entries.find? test with
  | none =>
    intro e mem meets
    exact List.find?_eq_none.1 search e mem ((decides e).2 meets)
  | some e =>
    obtain ⟨here, before, after, whole, unmet⟩ := List.find?_eq_some_iff_append.1 search
    refine ⟨before, e, after, whole, fun earlier mem meets => ?_, (decides e).1 here, rfl⟩
    have refused := unmet earlier mem
    rw [(decides earlier).2 meets] at refused
    cases refused

/-- An entry is first in one way only. -/
theorem FirstWith.unique {wanted : ServiceEntry β → Prop} {x y : Option β}
    (own : l.FirstWith wanted x) (other : l.FirstWith wanted y) : x = y := by
  classical
  have search {z : Option β} (h : l.FirstWith wanted z) :
      (l.entries.find? fun e => decide (wanted e)).map (·.build) = z := by
    cases z with
    | none =>
      rw [Option.map_eq_none_iff, List.find?_eq_none]
      intro e mem
      simpa using h e mem
    | some found =>
      obtain ⟨before, e, after, whole, unmet, here, rfl⟩ := h
      have first : l.entries.find? (fun e => decide (wanted e)) = some e :=
        List.find?_eq_some_iff_append.2
          ⟨by simpa using here, before, after, whole, by simpa using unmet⟩
      rw [first]
      rfl
  exact (search own).symm.trans (search other)

theorem firstWith_matching (service : String) (clauses : List Clause) :
    l.FirstWith (·.Meets service clauses) (l.matching service clauses) := by
  refine l.firstWith_find? fun e => ?_
  simp only [ServiceEntry.Meets, Bool.and_eq_true, beq_iff_eq, List.all_eq_true,
    Clause.holds_iff]

theorem firstWith_byPid (b : ServiceBinding) :
    l.FirstWith (·.IsNamedBy b) (b.pid.bind (l.byPid b.service)) := by
  cases named : b.pid with
  | none =>
    intro e _ wanted
    obtain ⟨_, pid, given, _⟩ := wanted
    rw [named] at given
    cases given
  | some pid =>
    refine l.firstWith_find? fun e => ?_
    simp [ServiceEntry.IsNamedBy, named]

end StaticLocator

/-- With a static locator, a binding with a filter that is accepted tries what its pid finds, what
the filter finds and its implementation. -/
theorem ServiceDirectory.resolve_eq {l : StaticLocator β} {d : ServiceDirectory β}
    {b : ServiceBinding} {filter : String} {clauses : List Clause} (search : Nat)
    (locates : d.locator = some l.locator) (filtered : b.filter = some filter) (read : Filter.parse filter = .ok clauses) :
    d.resolve search b =
      match ((b.pid.bind (l.byPid b.service)).or (l.matching b.service clauses)).or
        (b.implementation.bind d.implementations.get?) with
      | some found => .ok found
      | none => .error (.invalidSpec (.serviceNotFound b.service)) := by
  have located : d.locate search b =
      .ok ((b.pid.bind (l.byPid b.service)).or (l.matching b.service clauses)) := by
    unfold locate
    rw [locates, filtered]
    cases named : b.pid.bind (l.byPid b.service) with
    | some found => simp [StaticLocator.locator, named]
    | none => simp [StaticLocator.locator, named, StaticLocator.byFilter, read, bind, Except.bind,
        pure, Except.pure]
  rw [resolve, located, filtered]
  cases (b.pid.bind (l.byPid b.service)).or (l.matching b.service clauses) with
  | some found => simp [bind, Except.bind, pure, Except.pure]
  | none =>
    cases b.implementation.bind d.implementations.get? with
    | some found => simp [bind, Except.bind, pure, Except.pure]
    | none => simp [bind, Except.bind, throw, throwThe, MonadExceptOf.throw]

/-- A filter that is printed from clauses finds the first entry of a service that meets all of
them. A binding with such a filter resolves to the first entry that has its pid, else to the one
that the filter finds, else to its implementation, and is otherwise refused. -/
theorem StaticLocator.finds_printed (l : StaticLocator β) {clauses : List Clause} {filter : String}
    (printable : ∀ c ∈ clauses, c.IsPrintable) (printed : Filter.Printed clauses filter) :
    (∀ service, ∃ found, l.byFilter service filter = .ok found ∧
      l.FirstWith (·.Meets service clauses) found) ∧
    ∀ (d : ServiceDirectory β) (b : ServiceBinding) (search : Nat),
      d.locator = some l.locator → b.filter = some filter →
      ∃ named filtered, l.FirstWith (·.IsNamedBy b) named ∧
        l.FirstWith (·.Meets b.service clauses) filtered ∧
        d.resolve search b =
          match (named.or filtered).or (b.implementation.bind d.implementations.get?) with
          | some found => .ok found
          | none => .error (.invalidSpec (.serviceNotFound b.service)) := by
  have read : Filter.parse filter = .ok clauses := Filter.parse_of_printed printed printable
  constructor
  · intro service
    refine ⟨l.matching service clauses, ?_, l.firstWith_matching service clauses⟩
    rw [byFilter, read]
    rfl
  · intro d b search locates filtered
    exact ⟨_, _, l.firstWith_byPid b, l.firstWith_matching b.service clauses,
      ServiceDirectory.resolve_eq search locates filtered read⟩

end

/-- The signs `=`, `*` and `&` in a value stand for themselves, and white space between clauses does
not count: the second greeter is found, with a pid that nobody has and before the implementation. -/
theorem StaticLocator.finds_printed_greeter :
    let clauses : List Clause := [⟨"lang", "*"⟩, ⟨"tone", "a=*&b"⟩]
    let filter := " (& (lang=*)\t(tone=a=*&b)) "
    let tones (tone : String) := (NameMap.empty.insert "lang" "en").insert "tone" tone
    let l : StaticLocator Nat := ⟨[⟨"Greeter", none, tones "a", 1⟩,
      ⟨"Guide", none, tones "a=*&b", 2⟩,
      ⟨"Greeter", none, tones "a=*&b", 3⟩, ⟨"Greeter", some "pid", NameMap.empty, 4⟩]⟩
    Filter.Printed clauses filter ∧ (∀ c ∈ clauses, c.IsPrintable) ∧
      l.FirstWith (·.Meets "Greeter" clauses) (some 3) ∧
      ServiceDirectory.resolve ⟨NameMap.empty.insert "impl" 5, some l.locator⟩ 0
        ⟨"Greeter", some "nobody", some filter, some "impl"⟩ = .ok 3 := by
  intro clauses filter tones l
  have space : [' '].all isBlank = true := rfl
  have tab : ['\t'].all isBlank = true := rfl
  have printed : Filter.Printed clauses filter :=
    .several space space (.cons _ tab (.last _)) (rfl : [].all isBlank = true) space
  have lang : Clause.IsPrintable ⟨"lang", "*"⟩ :=
    ⟨by decide, by decide, by decide, List.all_iff_forall_prop.1 (by decide),
      List.all_iff_forall_prop.1 (by decide)⟩
  have tone : Clause.IsPrintable ⟨"tone", "a=*&b"⟩ :=
    ⟨by decide, by decide, by decide, List.all_iff_forall_prop.1 (by decide),
      List.all_iff_forall_prop.1 (by decide)⟩
  have printable : ∀ c ∈ clauses, c.IsPrintable := by
    rw [List.forall_mem_cons, List.forall_mem_singleton]
    exact ⟨lang, tone⟩
  let binding : ServiceBinding := ⟨"Greeter", some "nobody", some filter, some "impl"⟩
  have nobody : l.FirstWith (·.IsNamedBy binding) none := l.firstWith_byPid binding
  have second : l.FirstWith (·.Meets "Greeter" clauses) (some 3) :=
    l.firstWith_matching "Greeter" clauses
  obtain ⟨named, filtered, pid, meets, resolved⟩ := (l.finds_printed printable printed).2
    ⟨NameMap.empty.insert "impl" 5, some l.locator⟩ binding 0 rfl rfl
  obtain rfl : none = named := nobody.unique l pid
  obtain rfl : some 3 = filtered := second.unique l meets
  exact ⟨printed, printable, second, resolved⟩

end TreeAdapter
