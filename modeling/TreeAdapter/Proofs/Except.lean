import Mathlib.Data.List.Forall2

/-!
# Laws of results
-/

namespace TreeAdapter
set_option autoImplicit false

theorem bind_eq_ok {ε α β : Type} {x : Except ε α} {f : α → Except ε β} {b : β} :
    x >>= f = .ok b ↔ ∃ a, x = .ok a ∧ f a = .ok b := by
  cases x with
  | error e => simp [bind, Except.bind]
  | ok a => simp [bind, Except.bind]

theorem map_eq_ok {ε α β : Type} {x : Except ε α} {f : α → β} {b : β} :
    x.map f = .ok b ↔ ∃ a, x = .ok a ∧ f a = b := by
  cases x with
  | error e => simp [Except.map]
  | ok a => simp [Except.map]

theorem toOption_eq_some {ε α : Type} {x : Except ε α} {a : α} :
    x.toOption = some a ↔ x = .ok a := by
  cases x with
  | error e => simp [Except.toOption]
  | ok b => simp [Except.toOption]

/-- Results for a list are the results for its items, all of which succeed. -/
theorem mapM_eq_ok {ε α β : Type} {f : α → Except ε β} {xs : List α} {ys : List β} :
    xs.mapM f = .ok ys ↔ List.Forall₂ (fun x y => f x = .ok y) xs ys := by
  induction xs generalizing ys with
  | nil => simp [pure, Except.pure, eq_comm]
  | cons x rest ih =>
    rw [List.mapM_cons, bind_eq_ok, List.forall₂_cons_left_iff]
    constructor
    · rintro ⟨y, first, later⟩
      obtain ⟨tail, others, eq⟩ := bind_eq_ok.1 later
      cases eq
      exact ⟨y, tail, first, ih.1 others, rfl⟩
    · rintro ⟨y, tail, first, others, rfl⟩
      exact ⟨y, first, bind_eq_ok.2 ⟨tail, ih.2 others, rfl⟩⟩

/-- Results can be chosen for a list when they can for each of its items. -/
theorem exists_forall₂_iff {α β : Type} {R : α → β → Prop} {xs : List α} :
    (∃ ys, List.Forall₂ R xs ys) ↔ ∀ x ∈ xs, ∃ y, R x y := by
  induction xs with
  | nil => simp
  | cons x rest ih =>
    rw [List.forall_mem_cons, ← ih]
    constructor
    · rintro ⟨_, both⟩
      cases both with
      | cons first later => exact ⟨⟨_, first⟩, _, later⟩
    · rintro ⟨⟨y, first⟩, ys, later⟩
      exact ⟨y :: ys, .cons first later⟩

theorem foldlM_induction {ε α β : Type} {f : β → α → Except ε β} {motive : β → Prop} {xs : List α}
    {b c : β} (step : ∀ x ∈ xs, ∀ b c, f b x = .ok c → motive b → motive c)
    (run : xs.foldlM f b = .ok c) (h : motive b) : motive c := by
  induction xs generalizing b with
  | nil =>
    cases run
    exact h
  | cons x rest ih =>
    rw [List.foldlM_cons] at run
    obtain ⟨a, first, later⟩ := bind_eq_ok.1 run
    refine ih (fun y mem => step y (List.mem_cons_of_mem x mem)) later ?_
    exact step x List.mem_cons_self b a first h

/-- Steps that go on or fail whatever came before go on to the end when each of them does. -/
theorem exists_foldlM_iff {ε α β : Type} {f : β → α → Except ε β} {goes : α → Prop} {xs : List α}
    (step : ∀ x ∈ xs, ∀ b, (∃ c, f b x = .ok c) ↔ goes x) (b : β) :
    (∃ c, xs.foldlM f b = .ok c) ↔ ∀ x ∈ xs, goes x := by
  induction xs generalizing b with
  | nil => exact iff_of_true ⟨b, rfl⟩ (by simp)
  | cons x rest ih =>
    have later := ih fun y mem => step y (List.mem_cons_of_mem x mem)
    rw [List.forall_mem_cons, ← step x List.mem_cons_self b]
    simp only [List.foldlM_cons, bind_eq_ok]
    constructor
    · rintro ⟨c, a, first, others⟩
      exact ⟨⟨a, first⟩, (later a).1 ⟨c, others⟩⟩
    · rintro ⟨⟨a, first⟩, others⟩
      obtain ⟨c, last⟩ := (later a).2 others
      exact ⟨c, a, first, last⟩

/-- A run fails where its first failing step does. -/
theorem foldlM_eq_error_iff {ε α β : Type} {f : β → α → Except ε β} {xs : List α} {b : β} {e : ε} :
    xs.foldlM f b = .error e ↔ ∃ front x rest c, xs = front ++ x :: rest ∧
      front.foldlM f b = .ok c ∧ f c x = .error e := by
  constructor
  · intro failed
    induction xs generalizing b with
    | nil => cases failed
    | cons x rest ih =>
      rw [List.foldlM_cons] at failed
      cases first : f b x with
      | error e' =>
        rw [first] at failed
        cases failed
        exact ⟨[], x, rest, b, rfl, rfl, first⟩
      | ok a =>
        rw [first] at failed
        obtain ⟨front, y, last, c, rfl, run, refused⟩ := ih failed
        refine ⟨x :: front, y, last, c, rfl, ?_, refused⟩
        rw [List.foldlM_cons, first]
        exact run
  · rintro ⟨front, x, rest, c, rfl, run, refused⟩
    rw [List.foldlM_append, run]
    show (List.foldlM f c (x :: rest)) = .error e
    rw [List.foldlM_cons, refused]
    rfl

end TreeAdapter
