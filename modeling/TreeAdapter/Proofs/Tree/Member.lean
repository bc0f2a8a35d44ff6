import TreeAdapter.Proofs.Except
import TreeAdapter.Proofs.Json
import TreeAdapter.Tree.Loader

/-!
# Members of a document

`PropertyAs` reads the value of a member as it stands: a scalar, a scalar written as an object, or
the items of an array without `null`. That is what `json_to_property` and `typed_scalar` store
(`Tree.propertyOf_eq_ok_iff`), and the loader goes on exactly behind the members that are
`Acceptable` (`Tree.exists_propertyOf_iff`).
-/

namespace TreeAdapter
set_option autoImplicit false

open TreeAdapter.Tree (isNodeDocument typeMember)

/-! ## Values as they stand -/

/-- A scalar written as an object: its type, and the text of its value. -/
inductive TypedAs (members : List (String × Json)) : StoredValue → Prop where
  | date {text : String} {c : Calendar} (type : (typeMember, .string "date") ∈ members)
      (value : ("value", .string text) ∈ members) (read : Rfc3339.read text = some c) :
      TypedAs members (.date c)
  | binary {text : String} (type : (typeMember, .string "binary") ∈ members)
      (value : ("value", .string text) ∈ members) : TypedAs members (.binary text.toUTF8)
  | name {text : String} (type : (typeMember, .string "name") ∈ members)
      (value : ("value", .string text) ∈ members) : TypedAs members (.name text)
  | path {text : String} (type : (typeMember, .string "path") ∈ members)
      (value : ("value", .string text) ∈ members) : TypedAs members (.path text)
  | reference {text : String} (type : (typeMember, .string "reference") ∈ members)
      (value : ("value", .string text) ∈ members) : TypedAs members (.reference text)

/-- The scalar that a document stands for. -/
inductive ScalarAs : Json → StoredValue → Prop where
  | bool (b : Bool) : ScalarAs (.bool b) (.boolean b)
  | long (n : Int64) : ScalarAs (.integer n.toInt) (.long n)
  | double {n : Int} (wide : n < Number.int64Min ∨ Number.int64Max < n) :
      ScalarAs (.integer n) (.double (Double.ofInt n))
  | float (x : Double) : ScalarAs (.float x) (.double x)
  | string (s : String) : ScalarAs (.string s) (.string s)
  | typed {members : List (String × Json)} {v : StoredValue} (type : TypedAs members v) :
      ScalarAs (.object members) v

/-- The property that a member stands for: a scalar, or the items of an array without `null`. -/
inductive PropertyAs : Json → StoredValue → Prop where
  | scalar {j : Json} {v : StoredValue} (is : ScalarAs j v) : PropertyAs j v
  | array {items : List Json} {values : List StoredValue}
      (each : List.Forall₂ ScalarAs (items.filter (!·.isNull)) values) :
      PropertyAs (.array items) (.multi values)

/-- The types of scalars that are written as objects. -/
def scalarTypes : List String :=
  ["date", "binary", "name", "path", "reference"]

/-- A text of a known type, for a date one that can be read. -/
def IsTypedScalar (members : List (String × Json)) : Prop :=
  ∃ type ∈ scalarTypes, ∃ text, (typeMember, .string type) ∈ members ∧
    ("value", .string text) ∈ members ∧ (type = "date" → (Rfc3339.read text).isSome = true)

/-- What an array may hold. -/
def AcceptableItem : Json → Prop
  | .array _ => False
  | .object members => IsTypedScalar members
  | _ => True

/-- What a member of a node may be. -/
def Acceptable : Json → Prop
  | .array items => ∀ item ∈ items, AcceptableItem item
  | .object members => isNodeDocument (.object members) = false → IsTypedScalar members
  | _ => True

/-! ## One member -/

/-- A scalar is read as a single value. -/
theorem ScalarAs.isMultiple {j : Json} {v : StoredValue} (h : ScalarAs j v) :
    v.isMultiple = false := by
  cases h with
  | typed type => cases type <;> rfl
  | _ => rfl

namespace Tree

theorem integerValue_toInt (n : Int64) : integerValue n.toInt = .long n := by
  have above : Number.int64Min ≤ n.toInt := n.le_toInt
  have below : n.toInt ≤ Number.int64Max := Int.le_sub_one_of_lt n.toInt_lt
  rw [integerValue, Number.int64?, if_pos ⟨above, below⟩, Int64.ofInt_toInt]

theorem integerValue_of_wide {n : Int} (wide : n < Number.int64Min ∨ Number.int64Max < n) :
    integerValue n = .double (Double.ofInt n) := by
  have unfit : ¬(Number.int64Min ≤ n ∧ n ≤ Number.int64Max) := by omega
  rw [integerValue, Number.int64?, if_neg unfit]

/-- Every integer is read as one or the other. -/
theorem scalarAs_integerValue (n : Int) : ScalarAs (.integer n) (integerValue n) := by
  by_cases fits : Number.int64Min ≤ n ∧ n ≤ Number.int64Max
  · have back : (Int64.ofInt n).toInt = n :=
      Int64.toInt_ofInt_of_le fits.1 (Int.lt_of_le_sub_one fits.2)
    rw [← back, integerValue_toInt]
    exact .long _
  · have wide : n < Number.int64Min ∨ Number.int64Max < n := by omega
    rw [integerValue_of_wide wide]
    exact .double wide

section Typed
variable {members : List (String × Json)}

/-- A member that is a text, as the loader looks it up. -/
theorem text?_eq_some_iff (once : (members.map (·.1)).Nodup) {name text : String} :
    (Json.member? members name).bind Json.string? = some text ↔ (name, .string text) ∈ members := by
  rw [← Json.member?_eq_some_iff once, Option.bind_eq_some_iff]
  constructor
  · rintro ⟨value, found, is⟩
    cases value with
    | string s =>
      cases is
      exact found
    | _ => cases is
  · intro found
    exact ⟨.string text, found, rfl⟩

/-- An object with a type and a value is read as that typed scalar. -/
theorem typedScalar_of_typedAs (once : (members.map (·.1)).Nodup) {v : StoredValue}
    (type : TypedAs members v) : typedScalar members = .ok v := by
  cases type with
  | date type value read =>
    simp only [typedScalar, (text?_eq_some_iff once).2 type, (text?_eq_some_iff once).2 value,
      Option.getD_some, read]
  | binary type value | name type value | path type value | reference type value =>
    simp only [typedScalar, (text?_eq_some_iff once).2 type, (text?_eq_some_iff once).2 value,
      Option.getD_some]

/-- An object that is read as a typed scalar has its type and its value. -/
theorem typedAs_of_typedScalar (once : (members.map (·.1)).Nodup) {v : StoredValue}
    (h : typedScalar members = .ok v) : TypedAs members v := by
  have typed {kind : String} (known : kind ≠ "")
      (is : ((Json.member? members typeMember).bind Json.string?).getD "" = kind) :
      (typeMember, .string kind) ∈ members := by
    cases found : (Json.member? members typeMember).bind Json.string? with
    | none => exact absurd (by simpa [found] using is.symm) known
    | some text =>
      rw [found] at is
      rw [← is]
      exact (text?_eq_some_iff once).1 found
  simp only [typedScalar] at h
  split at h
  · cases h
  · next text value =>
    have valued := (text?_eq_some_iff once).1 value
    split at h
    · next is =>
      split at h
      · next read =>
        cases h
        exact .date (typed (by decide) is) valued read
      · cases h
    · next is => cases h; exact .binary (typed (by decide) is) valued
    · next is => cases h; exact .name (typed (by decide) is) valued
    · next is => cases h; exact .path (typed (by decide) is) valued
    · next is => cases h; exact .reference (typed (by decide) is) valued
    · cases h

/-- An object is a typed scalar when it reads as some value. -/
theorem isTypedScalar_iff : IsTypedScalar members ↔ ∃ v, TypedAs members v := by
  constructor
  · rintro ⟨type, known, text, typed, valued, reads⟩
    simp only [scalarTypes, List.mem_cons, List.not_mem_nil, or_false] at known
    rcases known with rfl | rfl | rfl | rfl | rfl
    · obtain ⟨c, read⟩ := Option.isSome_iff_exists.1 (reads rfl)
      exact ⟨_, .date typed valued read⟩
    · exact ⟨_, .binary typed valued⟩
    · exact ⟨_, .name typed valued⟩
    · exact ⟨_, .path typed valued⟩
    · exact ⟨_, .reference typed valued⟩
  · rintro ⟨v, type⟩
    cases type with
    | @date text c type value read =>
      exact ⟨"date", by simp [scalarTypes], text, type, value, fun _ => by rw [read]; rfl⟩
    | @binary text type value =>
      exact ⟨"binary", by simp [scalarTypes], text, type, value, by simp⟩
    | @name text type value =>
      exact ⟨"name", by simp [scalarTypes], text, type, value, by simp⟩
    | @path text type value =>
      exact ⟨"path", by simp [scalarTypes], text, type, value, by simp⟩
    | @reference text type value =>
      exact ⟨"reference", by simp [scalarTypes], text, type, value, by simp⟩

end Typed

/-- Only `null` holds no property. -/
theorem propertyOf_eq_none_iff {j : Json} : propertyOf j = .ok none ↔ j = .null := by
  cases j with
  | array items =>
    rw [propertyOf, bind_eq_ok]
    simp [pure, Except.pure]
  | object members =>
    rw [propertyOf, bind_eq_ok]
    simp [pure, Except.pure]
  | _ => simp [propertyOf]

/-- An object is a property when it is a typed scalar. -/
theorem propertyOf_object {members : List (String × Json)} {v : StoredValue} :
    propertyOf (.object members) = .ok (some v) ↔ typedScalar members = .ok v := by
  rw [propertyOf, bind_eq_ok]
  simp [pure, Except.pure]

/-- An array is a property with the values of its items. -/
theorem propertyOf_array {items : List Json} {v : StoredValue} :
    propertyOf (.array items) = .ok (some v) ↔
      ∃ values, propertiesOf items = .ok values ∧ v = .multi values := by
  rw [propertyOf, bind_eq_ok]
  simp [pure, Except.pure, eq_comm]

/-- A document that is no array holds its scalar. -/
theorem propertyOf_eq_some_iff {j : Json} (distinct : j.Distinct)
    (single : ∀ items, j ≠ .array items) {v : StoredValue} :
    propertyOf j = .ok (some v) ↔ ScalarAs j v := by
  constructor
  · intro holds
    cases j with
    | null => cases holds
    | bool b => cases holds; exact .bool b
    | integer n => cases holds; exact scalarAs_integerValue n
    | float x => cases holds; exact .float x
    | string s => cases holds; exact .string s
    | array items => exact absurd rfl (single items)
    | object members =>
      exact .typed (typedAs_of_typedScalar distinct.once (propertyOf_object.1 holds))
  · intro is
    cases is with
    | long n => rw [propertyOf, integerValue_toInt]
    | double wide => rw [propertyOf, integerValue_of_wide wide]
    | typed type => exact propertyOf_object.2 (typedScalar_of_typedAs distinct.once type)
    | _ => rfl

/-- An item that is `null` is left out; any other must be a single value. -/
theorem propertiesOf_cons {item : Json} {rest : List Json} {values : List StoredValue} :
    propertiesOf (item :: rest) = .ok values ↔
      (propertyOf item = .ok none ∧ propertiesOf rest = .ok values) ∨
      ∃ v tail, propertyOf item = .ok (some v) ∧ v.isMultiple = false ∧
        propertiesOf rest = .ok tail ∧ values = v :: tail := by
  rw [propertiesOf, bind_eq_ok]
  constructor
  · rintro ⟨o, holds, later⟩
    rw [holds]
    cases o with
    | none => exact .inl ⟨rfl, later⟩
    | some v =>
      cases v with
      | multi _ => cases later
      | _ =>
        obtain ⟨tail, others, eq⟩ := bind_eq_ok.1 later
        cases eq
        exact .inr ⟨_, tail, rfl, rfl, others, rfl⟩
  · rintro (⟨holds, others⟩ | ⟨v, tail, holds, single, others, rfl⟩)
    · exact ⟨none, holds, others⟩
    · refine ⟨some v, holds, ?_⟩
      cases v with
      | multi _ => cases single
      | _ => exact bind_eq_ok.2 ⟨tail, others, rfl⟩

/-- An array holds the scalars of its items, `null` left out, and nothing else. -/
theorem propertiesOf_eq_ok_iff {items : List Json} (distinct : ∀ item ∈ items, item.Distinct)
    {values : List StoredValue} :
    propertiesOf items = .ok values ↔
      List.Forall₂ ScalarAs (items.filter (!·.isNull)) values := by
  induction items generalizing values with
  | nil => simp [propertiesOf, eq_comm]
  | cons item rest ih =>
    have here : item.Distinct := distinct item List.mem_cons_self
    have later (tail : List StoredValue) : propertiesOf rest = .ok tail ↔
        List.Forall₂ ScalarAs (rest.filter (!·.isNull)) tail :=
      ih fun j mem => distinct j (List.mem_cons_of_mem item mem)
    rw [propertiesOf_cons, propertyOf_eq_none_iff]
    by_cases missing : item = .null
    · subst missing
      rw [List.filter_cons_of_neg (by simp [Json.isNull]), ← later]
      constructor
      · rintro (⟨_, others⟩ | ⟨v, tail, holds, _⟩)
        · exact others
        · cases holds
      · exact fun others => .inl ⟨rfl, others⟩
    · have kept : (item :: rest).filter (!·.isNull) = item :: rest.filter (!·.isNull) :=
        List.filter_cons_of_pos (by simpa [← Json.isNull_iff] using missing)
      rw [kept, List.forall₂_cons_left_iff]
      constructor
      · rintro (⟨is, _⟩ | ⟨v, tail, holds, single, others, rfl⟩)
        · exact absurd is missing
        · have scalar : ∀ items, item ≠ .array items := by
            rintro items rfl
            obtain ⟨values, _, rfl⟩ := propertyOf_array.1 holds
            cases single
          exact ⟨v, tail, (propertyOf_eq_some_iff here scalar).1 holds, (later tail).1 others, rfl⟩
      · rintro ⟨v, tail, is, others, rfl⟩
        have scalar : ∀ items, item ≠ .array items := by
          rintro items rfl
          cases is
        exact .inr ⟨v, tail, (propertyOf_eq_some_iff here scalar).2 is, is.isMultiple,
          (later tail).2 others, rfl⟩

/-- A member that is no node holds the property that it stands for. -/
theorem propertyOf_eq_ok_iff {j : Json} (distinct : j.Distinct) {v : StoredValue} :
    propertyOf j = .ok (some v) ↔ PropertyAs j v := by
  by_cases several : ∃ items, j = .array items
  · obtain ⟨items, rfl⟩ := several
    rw [propertyOf_array]
    constructor
    · rintro ⟨values, each, rfl⟩
      exact .array ((propertiesOf_eq_ok_iff fun _ mem => distinct.item mem).1 each)
    · intro is
      cases is with
      | scalar is => cases is
      | array each => exact ⟨_, (propertiesOf_eq_ok_iff fun _ mem => distinct.item mem).2 each, rfl⟩
  · rw [propertyOf_eq_some_iff distinct (not_exists.1 several)]
    constructor
    · exact .scalar
    · intro is
      cases is with
      | scalar is => exact is
      | array each => exact absurd ⟨_, rfl⟩ several

/-! ## What can be loaded -/

/-- What an array may hold is `null` or a scalar. -/
theorem acceptableItem_iff {j : Json} : AcceptableItem j ↔ j = .null ∨ ∃ v, ScalarAs j v := by
  cases j with
  | null => exact iff_of_true trivial (.inl rfl)
  | bool b => exact iff_of_true trivial (.inr ⟨_, .bool b⟩)
  | integer n => exact iff_of_true trivial (.inr ⟨_, scalarAs_integerValue n⟩)
  | float x => exact iff_of_true trivial (.inr ⟨_, .float x⟩)
  | string s => exact iff_of_true trivial (.inr ⟨_, .string s⟩)
  | array items =>
    refine iff_of_false id ?_
    rintro (eq | ⟨v, is⟩)
    · cases eq
    · cases is
  | object members =>
    refine isTypedScalar_iff.trans ?_
    constructor
    · rintro ⟨v, type⟩
      exact .inr ⟨v, .typed type⟩
    · rintro (eq | ⟨v, is⟩)
      · cases eq
      · cases is with
        | typed type => exact ⟨v, type⟩

/-- An array is acceptable when all its items besides `null` are scalars. -/
theorem acceptableItems_iff {items : List Json} :
    (∀ item ∈ items, AcceptableItem item) ↔
      ∃ values, List.Forall₂ ScalarAs (items.filter (!·.isNull)) values := by
  rw [exists_forall₂_iff]
  constructor
  · intro each item mem
    obtain ⟨inside, present⟩ := List.mem_filter.1 mem
    rcases acceptableItem_iff.1 (each item inside) with rfl | scalar
    · cases present
    · exact scalar
  · intro each item inside
    by_cases missing : item = .null
    · exact acceptableItem_iff.2 (.inl missing)
    · have present : (!item.isNull) = true := by simpa [← Json.isNull_iff] using missing
      exact acceptableItem_iff.2 (.inr (each item (List.mem_filter.2 ⟨inside, present⟩)))

/-- What a member that is no node has to be for the loader to go on. -/
theorem exists_propertyOf_iff {j : Json} (distinct : j.Distinct)
    (property : isNodeDocument j = false) : (∃ o, propertyOf j = .ok o) ↔ Acceptable j := by
  rw [Option.exists, propertyOf_eq_none_iff]
  simp only [propertyOf_eq_ok_iff distinct]
  cases j with
  | array items =>
    refine Iff.trans ?_ acceptableItems_iff.symm
    constructor
    · rintro (eq | ⟨v, is⟩)
      · cases eq
      · cases is with
        | scalar is => cases is
        | array each => exact ⟨_, each⟩
    · rintro ⟨values, each⟩
      exact .inr ⟨_, .array each⟩
  | object members =>
    have acceptable : Acceptable (.object members) ↔ IsTypedScalar members := by
      simp [Acceptable, property]
    rw [acceptable, isTypedScalar_iff]
    constructor
    · rintro (eq | ⟨v, is⟩)
      · cases eq
      · cases is with
        | scalar is =>
          cases is with
          | typed type => exact ⟨v, type⟩
    · rintro ⟨v, type⟩
      exact .inr ⟨v, .scalar (.typed type)⟩
  | null => exact iff_of_true (.inl rfl) trivial
  | bool b => exact iff_of_true (.inr ⟨_, .scalar (.bool b)⟩) trivial
  | integer n => exact iff_of_true (.inr ⟨_, .scalar (scalarAs_integerValue n)⟩) trivial
  | float x => exact iff_of_true (.inr ⟨_, .scalar (.float x)⟩) trivial
  | string s => exact iff_of_true (.inr ⟨_, .scalar (.string s)⟩) trivial

end Tree

end TreeAdapter
