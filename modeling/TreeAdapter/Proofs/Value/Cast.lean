import TreeAdapter.Proofs.Except
import TreeAdapter.Proofs.Number.Double
import TreeAdapter.Value.Cast
import TreeAdapter.Value.Shape

/-!
# Casting is sound

Three tables have a say in a `cast`: the kind that a type is stored as, what is assignable to it
(`is_assignable`), and the coercions (`coerce`). A `fetch` gives a scalar of the kind
(`fetch?_isScalar`), a coercion gives a scalar that is assignable (`Cast.coerce_sound`), so a cast
of one value gives a scalar that is assignable (`Cast.scalar_sound`), and an array is cast item by
item (`cast_array_eq_ok_iff`).

* `cast_sound` — a cast gives a value of its type, keeps a payload that the type represents as it
  is, and is what a caller who asks for that type can take
-/

namespace TreeAdapter
set_option autoImplicit false

namespace Value

/-- A value that stands for itself: neither nothing, nor an array, nor a handle. -/
def isScalar : Value → Bool
  | bool _ | long _ | double _ | string _ | calendar _ | date _ | stream _ | bytes _ => true
  | _ => false

theorem isNull_of_isScalar {v : Value} (h : v.isScalar = true) : v.isNull = false := by
  cases v with
  | null => cases h
  | _ => rfl

theorem heldAdapters_of_isScalar {v : Value} (h : v.isScalar = true) : v.heldAdapters = [] := by
  cases v with
  | adapter a => cases h
  | array items => cases h
  | _ => rfl

/-- What is assignable to a type of arrays is nothing or an array. -/
theorem isArray_of_isAssignable {v : Value} {declared : DeclaredType} (scalar : v.isScalar = true)
    (fits : v.isAssignable declared = true) : declared.isArray = false := by
  cases declared with
  | array element =>
    cases v with
    | null => cases scalar
    | array items => cases scalar
    | _ => cases fits
  | _ => rfl

end Value

namespace StoredValue

/-- The values that are stored, which for a scalar is the one. -/
def items : StoredValue → List StoredValue
  | multi values => values
  | single => [single]

/-- The payload of a scalar that is held in the representation of a type. -/
def heldAs (raw : StoredValue) (declared : DeclaredType) : Option Value :=
  match declared, raw with
  | .string, string s | .string, name s | .string, path s | .string, reference s
  | .name, string s | .name, name s | .name, path s | .name, reference s
  | .path, string s | .path, name s | .path, path s | .path, reference s
  | .reference, string s | .reference, name s | .reference, path s | .reference, reference s =>
    some (.string s)
  | .long, long n => some (.long n)
  | .double, double x => some (.double x)
  | .boolean, boolean b => some (.bool b)
  | .calendar, date c => some (.calendar c)
  | .stream, binary b => some (.stream b)
  | _, _ => none

/-- Several values are not read as any kind. -/
theorem fetch?_multi (values : List StoredValue) (kind : StoredKind) :
    (multi values).fetch? kind = none := by
  cases kind <;> rfl

theorem fetch?_isScalar {raw : StoredValue} {kind : StoredKind} {v : Value}
    (h : raw.fetch? kind = some v) : v.isScalar = true := by
  cases kind with
  | boolean =>
    obtain ⟨b, _, rfl⟩ := Option.map_eq_some_iff.1 h
    rfl
  | date =>
    obtain ⟨c, _, rfl⟩ := Option.map_eq_some_iff.1 h
    rfl
  | double =>
    obtain ⟨x, _, rfl⟩ := Option.map_eq_some_iff.1 h
    rfl
  | long =>
    obtain ⟨n, _, rfl⟩ := Option.map_eq_some_iff.1 h
    rfl
  | binary =>
    obtain ⟨b, _, rfl⟩ := Option.map_eq_some_iff.1 h
    rfl
  | _ =>
    obtain ⟨s, _, rfl⟩ := Option.map_eq_some_iff.1 h
    rfl

/-- A payload in the representation of a type is what is read as the kind that the type is stored
as, and needs no coercion. -/
theorem fetch?_of_heldAs {raw : StoredValue} {declared : DeclaredType} {v : Value}
    (h : raw.heldAs declared = some v) :
    raw.fetch? declared.storage = some v ∧ v.isAssignable declared = true := by
  unfold heldAs at h
  split at h
  all_goals cases h
  all_goals exact ⟨rfl, rfl⟩

end StoredValue

/-! ## One value -/

namespace Cast

/-- A coercion leads to a scalar that is assignable. -/
theorem coerce_sound {v w : Value} {declared : DeclaredType} (h : coerce v declared = .ok w) :
    w.isScalar = true ∧ w.isAssignable declared = true := by
  unfold coerce at h
  split at h
  all_goals cases h
  all_goals exact ⟨rfl, rfl⟩

theorem scalar_eq_ok_iff {raw : StoredValue} {declared : DeclaredType} {v : Value} :
    scalar raw declared = .ok v ↔ ∃ fetched, raw.fetch? declared.storage = some fetched ∧
      if fetched.isAssignable declared then fetched = v else coerce fetched declared = .ok v := by
  unfold scalar
  cases raw.fetch? declared.storage with
  | none => simp
  | some fetched => cases fits : fetched.isAssignable declared <;> simp [fits]

/-- A cast of one value gives a scalar of the type, which is no type of arrays. -/
theorem scalar_sound {raw : StoredValue} {declared : DeclaredType} {v : Value}
    (h : scalar raw declared = .ok v) : v.isScalar = true ∧ v.isAssignable declared = true := by
  obtain ⟨fetched, read, result⟩ := scalar_eq_ok_iff.1 h
  split at result
  · next fits =>
    rw [← result]
    exact ⟨StoredValue.fetch?_isScalar read, fits⟩
  · exact coerce_sound result

theorem scalar_of_heldAs {raw : StoredValue} {declared : DeclaredType} {v : Value}
    (h : raw.heldAs declared = some v) : scalar raw declared = .ok v := by
  obtain ⟨read, fits⟩ := StoredValue.fetch?_of_heldAs h
  refine scalar_eq_ok_iff.2 ⟨v, read, ?_⟩
  rw [if_pos fits]

/-- Several values are no scalar of any type. -/
theorem scalar_multi (values : List StoredValue) (declared : DeclaredType) (v : Value) :
    scalar (.multi values) declared ≠ .ok v := by
  intro h
  obtain ⟨fetched, read, _⟩ := scalar_eq_ok_iff.1 h
  rw [StoredValue.fetch?_multi] at read
  cases read

end Cast

/-! ## Arrays and scalars -/

/-- A cast to a type that is no array is the cast of the one value. -/
theorem cast_eq_ok_iff {declared : DeclaredType} (single : declared.isArray = false)
    {raw : StoredValue} {v : Value} :
    cast (some raw) declared = .ok v ↔ Cast.scalar raw declared = .ok v := by
  cases raw with
  | multi values =>
    refine iff_of_false ?_ (Cast.scalar_multi values declared v)
    cases declared with
    | array element => cases single
    | _ =>
      intro h
      cases h
  | _ =>
    cases declared with
    | array element => cases single
    | _ => exact Iff.rfl

/-- A cast to a type of arrays is the cast of each stored value, and there are no arrays of
arrays. -/
theorem cast_array_eq_ok_iff {element : DeclaredType} {raw : StoredValue} {v : Value} :
    cast (some raw) (.array element) = .ok v ↔ element.isArray = false ∧ ∃ items, v = .array items ∧
      List.Forall₂ (fun stored item => cast (some stored) element = .ok item) raw.items items := by
  cases nested : element.isArray with
  | true => simp [cast, nested]
  | false =>
    simp only [cast_eq_ok_iff nested, true_and]
    cases raw with
    | multi values =>
      simp only [cast, nested, Bool.false_eq_true, if_false, StoredValue.items, ← mapM_eq_ok]
      show (Cast.all values element).map Value.array = .ok v ↔ _
      rw [Cast.all]
      cases values.mapM fun v => Cast.scalar v element with
      | error e => simp [Except.map]
      | ok items => simp [Except.map, eq_comm]
    | _ =>
      simp only [cast, nested, Bool.false_eq_true, if_false, StoredValue.items,
        List.forall₂_cons_left_iff, List.forall₂_nil_left_iff]
      generalize Cast.scalar _ element = result
      cases result with
      | error e => simp [Except.map]
      | ok item => simp [Except.map, eq_comm]

theorem Cast.items_sound {element : DeclaredType} (single : element.isArray = false)
    {stored : List StoredValue} {items : List Value}
    (each : List.Forall₂ (fun stored item => cast (some stored) element = .ok item) stored items) :
    ∀ item ∈ items, item.isScalar = true ∧ item.isAssignable element = true := by
  induction each with
  | nil => simp
  | cons first _ ih =>
    exact List.forall_mem_cons.2 ⟨scalar_sound ((cast_eq_ok_iff single).1 first), ih⟩

theorem Value.allAssignable_iff {items : List Value} {element : DeclaredType} :
    allAssignable items element = true ↔ ∀ item ∈ items, item.isAssignable element = true := by
  induction items with
  | nil => simp [allAssignable]
  | cons item items ih => simp [allAssignable, ih]

/-- A cast gives something, and it is of the type. -/
theorem isAssignable_of_cast {raw : StoredValue} {declared : DeclaredType} {v : Value}
    (done : cast (some raw) declared = .ok v) : v.isNull = false ∧ v.isAssignable declared = true := by
  cases nested : declared.isArray with
  | false =>
    obtain ⟨scalar, fits⟩ := Cast.scalar_sound ((cast_eq_ok_iff nested).1 done)
    exact ⟨Value.isNull_of_isScalar scalar, fits⟩
  | true =>
    cases declared with
    | array element =>
      obtain ⟨single, items, rfl, each⟩ := cast_array_eq_ok_iff.1 done
      refine ⟨rfl, ?_⟩
      rw [Value.isAssignable, Value.allAssignable_iff]
      intro item mem
      exact (Cast.items_sound single each item mem).2
    | _ => cases nested

/-- A cast gives an array exactly for a type of arrays. -/
theorem exists_array_iff_of_cast {raw : StoredValue} {declared : DeclaredType} {v : Value}
    (done : cast (some raw) declared = .ok v) :
    (∃ items, v = .array items) ↔ declared.isArray = true := by
  cases nested : declared.isArray with
  | false =>
    refine iff_of_false ?_ Bool.false_ne_true
    rintro ⟨items, rfl⟩
    have scalar := (Cast.scalar_sound ((cast_eq_ok_iff nested).1 done)).1
    cases scalar
  | true =>
    cases declared with
    | array element =>
      obtain ⟨-, items, eq, -⟩ := cast_array_eq_ok_iff.1 done
      exact iff_of_true ⟨items, eq⟩ rfl
    | _ => cases nested

/-- A payload in the representation of a type is what its cast gives. -/
theorem cast_of_heldAs {raw : StoredValue} {declared : DeclaredType} {v : Value}
    (held : raw.heldAs declared = some v) : cast (some raw) declared = .ok v := by
  have scalar := Cast.scalar_of_heldAs held
  obtain ⟨isScalar, fits⟩ := Cast.scalar_sound scalar
  exact (cast_eq_ok_iff (Value.isArray_of_isAssignable isScalar fits)).2 scalar

/-- A Long is cast to the Double nearest to it, and to the even one where two are as near. -/
theorem cast_long_double (n : Int64) :
    ∃ x, cast (some (.long n)) .double = .ok (.double x) ∧ Double.Rounds n.toInt 1 x :=
  ⟨_, rfl, Double.ofInt_toInt_rounds n⟩

/-! ## What a caller can take -/

/-- The shape that a caller asks for who wants values of a type. Handles and objects are not cast,
and have none. -/
def DeclaredType.shape? : DeclaredType → Option Shape
  | boolean => some (.base .bool)
  | long => some (.base .long)
  | double => some (.base .double)
  | string | .name | path | reference => some (.base .string)
  | calendar => some (.base .calendar)
  | date => some (.base .date)
  | stream => some (.base .stream)
  | bytes => some (.base .bytes)
  | array element => element.shape?.map .several
  | resource | children | adapter _ | object _ => none

mutual

/-- The value that a view shows. -/
def View.shown : View → Value
  | value v => v
  | absent => .null
  | present view => view.shown
  | several items => .array (View.allShown items)

def View.allShown : List View → List Value
  | [] => []
  | item :: items => item.shown :: View.allShown items

end

theorem View.allShown_map_value (items : List Value) : View.allShown (items.map .value) = items := by
  induction items with
  | nil => rfl
  | cons item items ih => rw [List.map_cons, allShown, shown, ih]

namespace Value

/-- A scalar of a type fits its shape. -/
theorem as_of_isScalar {v : Value} {declared : DeclaredType} {shape : Shape}
    (scalar : v.isScalar = true) (fits : v.isAssignable declared = true)
    (wanted : declared.shape? = some shape) : v.as shape = .ok (.value v) := by
  cases v with
  | bool | long | double | string | calendar | date | stream | bytes =>
    cases declared with
    | array element => cases fits
    | boolean | long | double | string | name | path | reference | calendar | date | stream | bytes =>
      cases wanted
      first
        | rfl
        | cases fits
    | _ => cases wanted
  | _ => cases scalar

theorem as_optional {v : Value} (present : v.isNull = false) (shape : Shape) :
    v.as (.optional shape) = (v.as shape).map .present := by
  cases v with
  | null => cases present
  | _ => rfl

end Value

/-- What a cast gives fits the shape of its type, and the view shows it as it is. -/
theorem as_of_cast {raw : StoredValue} {declared : DeclaredType} {v : Value}
    (done : cast (some raw) declared = .ok v) {shape : Shape}
    (wanted : declared.shape? = some shape) : ∃ view, v.as shape = .ok view ∧ view.shown = v := by
  cases nested : declared.isArray with
  | false =>
    obtain ⟨scalar, fits⟩ := Cast.scalar_sound ((cast_eq_ok_iff nested).1 done)
    exact ⟨.value v, Value.as_of_isScalar scalar fits wanted, rfl⟩
  | true =>
    cases declared with
    | array element =>
      obtain ⟨of, inner, rfl⟩ := Option.map_eq_some_iff.1 wanted
      obtain ⟨single, items, rfl, each⟩ := cast_array_eq_ok_iff.1 done
      have views : items.mapM (fun (item : Value) => item.as of) = .ok (items.map .value) := by
        refine mapM_eq_ok.2 (List.forall₂_map_right_iff.2 (List.forall₂_same.2 ?_))
        intro item mem
        obtain ⟨scalar, fits⟩ := Cast.items_sound single each item mem
        exact Value.as_of_isScalar scalar fits inner
      refine ⟨.several (items.map .value), ?_, ?_⟩
      · rw [Value.as, views]
        rfl
      · rw [View.shown, View.allShown_map_value]
    | _ => cases nested

/-- Nothing is no value of any type. -/
theorem null_as {declared : DeclaredType} {shape : Shape} (wanted : declared.shape? = some shape)
    (view : View) : Value.null.as shape ≠ .ok view := by
  intro h
  cases declared with
  | array element =>
    obtain ⟨of, _, rfl⟩ := Option.map_eq_some_iff.1 wanted
    cases h
  | resource | children | adapter | object => cases wanted
  | _ =>
    cases wanted
    cases h

/-- For every stored value and every type. A cast that succeeds gives a value that is not null and
is assignable to the type; it is an array exactly when the type is one, and then its items are the
casts of the stored values, one for each. A scalar that is held as the type represents it is given
as it is. And whoever asks for the type, with room for nothing, can take the result of every cast:
what is stored as it was cast, and nothing where nothing is stored. -/
theorem cast_sound (declared : DeclaredType) :
    (∀ raw v, cast (some raw) declared = .ok v →
      v.isNull = false ∧ v.isAssignable declared = true ∧
      ((∃ items, v = .array items) ↔ declared.isArray = true) ∧
      ∀ element, declared = .array element → ∃ items, v = .array items ∧
        items.length = raw.items.length ∧
        List.Forall₂ (fun stored item => cast (some stored) element = .ok item) raw.items items) ∧
    (∀ raw v, raw.heldAs declared = some v → cast (some raw) declared = .ok v) ∧
    ∀ shape, declared.shape? = some shape →
      (∀ raw v, cast (some raw) declared = .ok v → ∃ view, v.as shape = .ok view ∧
        v.as (.optional shape) = .ok (.present view) ∧ view.shown = v) ∧
      cast none declared = .ok .null ∧ Value.null.as (.optional shape) = .ok .absent ∧
      ∀ view, Value.null.as shape ≠ .ok view := by
  refine ⟨?_, ?_, ?_⟩
  · intro raw v done
    obtain ⟨present, fits⟩ := isAssignable_of_cast done
    refine ⟨present, fits, exists_array_iff_of_cast done, ?_⟩
    rintro element rfl
    obtain ⟨-, items, eq, each⟩ := cast_array_eq_ok_iff.1 done
    exact ⟨items, eq, each.length_eq.symm, each⟩
  · intro raw v held
    exact cast_of_heldAs held
  · intro shape wanted
    refine ⟨?_, rfl, rfl, null_as wanted⟩
    intro raw v done
    obtain ⟨view, seen, shown⟩ := as_of_cast done wanted
    have present : v.isNull = false := (isAssignable_of_cast done).1
    refine ⟨view, seen, ?_, shown⟩
    rw [Value.as_optional present, seen]
    rfl

end TreeAdapter
