import TreeAdapter.Proofs.Address
import TreeAdapter.Proofs.DeclaredType
import TreeAdapter.Proofs.Text.Quoted

/-!
# Cache keys of properties

The cache key that `resolve_property` puts together holds the place of a property, its type and the
default in use, with `#` and `?` in front of the latter two. Names and defaults may hold these marks
as well, so the parts are told apart from the end. A type holds neither mark, and a default holds
them between quotes only: a reader who starts at such a mark, in the midst of a quoted text, takes
every later quote the wrong way round and is not outside of quotes at the end (`Balanced`). So the
last mark in front of a balanced rest is the one that the key was put together with (`mark_inj`).

* `cacheKey_inj` — what two property accessors with one cache key have in common
-/

namespace TreeAdapter
set_option autoImplicit false

namespace Addressing

/-! ## Reading between quotes -/

/-- The marks in front of type and default. -/
def marks : List Char := ['#', '?']

/-- Where a reader of a diagnostic text stands. -/
inductive Stand where
  | outside
  | inside
  /-- Inside, behind a backslash. -/
  | escaped

namespace Stand

/-- A character read. Outside of quotes neither a backslash nor a mark can be read. -/
def next : Stand → Char → Option Stand
  | outside, c => if c = '"' then some inside else if c ∈ '\\' :: marks then none else some outside
  | inside, c => if c = '"' then some outside else if c = '\\' then some escaped else some inside
  | escaped, _ => some inside

def read (p : Stand) (cs : List Char) : Option Stand :=
  cs.foldlM next p

@[simp] theorem read_nil (p : Stand) : p.read [] = some p := rfl

@[simp] theorem read_cons (p : Stand) (c : Char) (cs : List Char) :
    p.read (c :: cs) = (p.next c).bind fun q => q.read cs := rfl

/-- A text is read up to some point and from there on. -/
theorem read_append (p : Stand) (cs ds : List Char) :
    p.read (cs ++ ds) = (p.read cs).bind fun q => q.read ds :=
  List.foldlM_append

end Stand

/-- Who starts outside of quotes ends there; who starts inside does not end outside. -/
structure Balanced (cs : List Char) : Prop where
  outside : Stand.outside.read cs = some .outside
  inside : ∀ p, Stand.inside.read cs = some p → p = .inside

theorem Balanced.append {cs ds : List Char} (h : Balanced cs) (h' : Balanced ds) :
    Balanced (cs ++ ds) where
  outside := by rw [Stand.read_append, h.outside, Option.bind_some, h'.outside]
  inside := by
    intro p read
    rw [Stand.read_append] at read
    obtain ⟨q, first, second⟩ := Option.bind_eq_some_iff.1 read
    rw [h.inside q first] at second
    exact h'.inside p second

/-- The characters that a reader takes notice of. -/
def special : List Char := '"' :: '\\' :: marks

def isPlain (c : Char) : Bool := !special.contains c

theorem isPlain_iff {c : Char} : isPlain c = true ↔ c ∉ special := by simp [isPlain]

/-- Inside a quoted text, only a quote and a backslash change where one stands. -/
theorem read_inside_of_plain {cs : List Char} (plain : ∀ c ∈ cs, c ∉ ['"', '\\']) :
    Stand.inside.read cs = some .inside := by
  induction cs with
  | nil => rfl
  | cons c cs ih =>
    obtain ⟨first, rest⟩ := List.forall_mem_cons.1 plain
    simp only [List.mem_cons, List.not_mem_nil, or_false, not_or] at first
    simp [Stand.next, first, ih rest]

/-- A text without quotes, backslashes and marks is balanced. -/
theorem balanced_of_plain {cs : List Char} (plain : cs.all isPlain = true) : Balanced cs where
  outside := by
    induction cs with
    | nil => rfl
    | cons c cs ih =>
      rw [List.all_cons, Bool.and_eq_true, isPlain_iff, special, List.mem_cons, not_or] at plain
      rw [Stand.read_cons, Stand.next, if_neg plain.1.1, if_neg plain.1.2, Option.bind_some,
        ih plain.2]
  inside := by
    intro p read
    rw [read_inside_of_plain] at read
    · exact (Option.some.inj read).symm
    · intro c mem quoted
      refine isPlain_iff.1 (List.all_eq_true.1 plain c mem) ?_
      simp only [special, List.mem_cons, List.not_mem_nil, or_false] at quoted ⊢
      exact quoted.imp_right .inl

/-- A text of characters of a class without special ones is balanced. -/
theorem balanced_of_class {f : Char → Bool} (apart : special.any f = false) {cs : List Char}
    (h : ∀ c ∈ cs, f c = true) : Balanced cs := by
  refine balanced_of_plain (List.all_eq_true.2 fun c mem => isPlain_iff.2 fun special => ?_)
  exact List.any_eq_false.1 apart c special (h c mem)

/-! ## Quoted texts are balanced -/

/-- The escape of a character is read whole and stays inside the quotes. -/
theorem read_inside_of_escaped {c : Char} {es : List Char} (h : Text.Escaped c es) :
    Stand.inside.read es = some .inside := by
  cases h with
  | short => simp [Stand.next]
  | codePoint =>
    have digits : ∀ x ∈ '\x7b' :: (Nat.toDigits 16 c.toNat ++ ['\x7d']), x ∉ ['"', '\\'] := by
      have table : ∀ d < 16, Nat.digitChar d ∉ ['"', '\\'] := by decide
      rw [List.forall_mem_cons, List.forall_mem_append]
      refine ⟨by decide, fun x mem => ?_, by simp⟩
      obtain ⟨d, small, rfl⟩ := Number.exists_digitChar_of_mem (by decide) mem
      exact table d small
    have rest := read_inside_of_plain digits
    simpa [Text.codePointEscape, Stand.next] using rest
  | plain quote backslash => simp [Stand.next, quote, backslash]

/-- A reader who starts outside and gets through the escape of a character is outside behind it. -/
theorem read_outside_of_escaped {c : Char} {es : List Char} (h : Text.Escaped c es) {p : Stand}
    (read : Stand.outside.read es = some p) : p = .outside := by
  cases h with
  | short => simp [Stand.next] at read
  | codePoint => simp [Text.codePointEscape, Stand.next] at read
  | plain quote _ =>
    by_cases mark : c ∈ '\\' :: marks
    · rw [Stand.read_cons, Stand.next, if_neg quote, if_pos mark] at read
      cases read
    · rw [Stand.read_cons, Stand.next, if_neg quote, if_neg mark] at read
      exact (Option.some.inj read).symm

/-- The escapes of a text stay inside its quotes. -/
theorem read_inside_escapes (cs : List Char) :
    Stand.inside.read (cs.flatMap Text.escapeChar) = some .inside := by
  induction cs with
  | nil => rfl
  | cons c cs ih =>
    rw [List.flatMap_cons, Stand.read_append, read_inside_of_escaped (Text.escaped_escapeChar c),
      Option.bind_some, ih]

/-- A reader who starts outside and gets through the escapes of a text is outside behind them. -/
theorem read_outside_escapes {cs : List Char} {p : Stand}
    (read : Stand.outside.read (cs.flatMap Text.escapeChar) = some p) : p = .outside := by
  induction cs with
  | nil => exact (Option.some.inj read).symm
  | cons c cs ih =>
    rw [List.flatMap_cons, Stand.read_append] at read
    obtain ⟨q, first, rest⟩ := Option.bind_eq_some_iff.1 read
    rw [read_outside_of_escaped (Text.escaped_escapeChar c) first] at rest
    exact ih rest

/-- A quoted text is balanced, whatever it quotes. -/
theorem balanced_quoted (s : String) : Balanced (Text.quoted s).toList where
  outside := by
    rw [Text.toList_quoted, List.cons_append, Stand.read_cons]
    simp [Stand.next, Stand.read_append, read_inside_escapes]
  inside := by
    intro p read
    rw [Text.toList_quoted, List.cons_append, Stand.read_cons] at read
    simp only [Stand.next, if_true, Option.bind_some, Stand.read_append] at read
    obtain ⟨q, escapes, last⟩ := Option.bind_eq_some_iff.1 read
    rw [read_outside_escapes escapes] at last
    exact (Option.some.inj last).symm

theorem balanced_quotedList (items : List String) : Balanced (Text.quotedList items).toList := by
  have later (items : List String) : Balanced (Text.laterItems items) := by
    induction items with
    | nil => exact balanced_of_plain (by decide)
    | cons s rest ih =>
      exact ((balanced_of_plain (by decide)).append (balanced_quoted s)).append ih
  cases items with
  | nil =>
    rw [Text.toList_quotedList_nil]
    exact balanced_of_plain (by decide)
  | cons s rest =>
    rw [Text.toList_quotedList_cons]
    have opening : Balanced ['['] := balanced_of_plain (by decide)
    have closing : Balanced [']'] := balanced_of_plain (by decide)
    exact opening.append (((balanced_quoted s).append (later rest)).append closing)

/-! ## Marks -/

/-- A mark in a balanced text stands between quotes, so what follows it is not balanced. -/
theorem Balanced.not_behind_mark {front back : List Char} {c : Char} (mark : c ∈ marks)
    (whole : Balanced (front ++ c :: back)) : ¬Balanced back := by
  intro h
  have quote : c ≠ '"' ∧ c ≠ '\\' := by
    have table : ∀ c ∈ marks, c ≠ '"' ∧ c ≠ '\\' := by simp [marks]
    exact table c mark
  have read := whole.outside
  rw [Stand.read_append] at read
  obtain ⟨p, _, rest⟩ := Option.bind_eq_some_iff.1 read
  -- outside of quotes the mark could not have been read
  have enters : Stand.inside.read back = some .outside := by
    cases p with
    | outside => simp [Stand.next, quote.1, mark] at rest
    | inside => simpa [Stand.next, quote] using rest
    | escaped => simpa [Stand.next] using rest
  cases h.inside _ enters

/-- The mark in front of a balanced rest is the same one however the text is read. -/
theorem mark_inj {front front' back back' : List Char} {c d : Char} (hc : c ∈ marks)
    (hd : d ∈ marks) (h : Balanced back) (h' : Balanced back')
    (same : front ++ c :: back = front' ++ d :: back') :
    front = front' ∧ c = d ∧ back = back' := by
  -- were one mark further to the front, the other would stand in the rest behind it
  rcases List.append_eq_append_iff.1 same with ⟨between, rfl, rest⟩ | ⟨between, rfl, rest⟩
  · cases between with
    | nil => exact ⟨by simp, List.cons.inj rest⟩
    | cons _ between =>
      rw [(List.cons.inj rest).2] at h
      exact absurd h' (h.not_behind_mark hd)
  · cases between with
    | nil => exact ⟨by simp, (List.cons.inj rest).1.symm, (List.cons.inj rest).2.symm⟩
    | cons _ between =>
      rw [(List.cons.inj rest).2] at h'
      exact absurd h (h'.not_behind_mark hc)

/-! ## Types and defaults -/

theorem balanced_typeText {t : DeclaredType} (named : t.WellNamed) : Balanced t.text.toList :=
  balanced_of_class (by decide) (DeclaredType.isTypeChar_of_mem_text named)

theorem balanced_numberText {cs : List Char} (number : ∀ c ∈ cs, Number.isNumberChar c = true) :
    Balanced cs :=
  balanced_of_class (by decide) number

end Addressing

namespace DefaultValue

/-- The same value, where doubles count by their text. -/
inductive PrintsAlike : DefaultValue → DefaultValue → Prop where
  | same (v : DefaultValue) : PrintsAlike v v
  | double {x y : Double} (h : x.debug = y.debug) : PrintsAlike (.double x) (.double y)

def kind : DefaultValue → String
  | boolean _ => "Boolean"
  | long _ => "Long"
  | double _ => "Double"
  | string _ => "String"
  | strings _ => "Strings"

/-- What stands behind the kind in the diagnostic form, in brackets. -/
def content : DefaultValue → String
  | boolean b => if b then "true" else "false"
  | long n => Number.int64Text n
  | double x => x.debug
  | string s => Text.quoted s
  | strings items => Text.quotedList items

/-- A default is printed as its kind with its content in parentheses. -/
theorem toList_debug (v : DefaultValue) :
    v.debug.toList = v.kind.toList ++ '(' :: (v.content.toList ++ [')']) := by
  cases v <;> simp [debug, kind, content]

/-- What stands between the parentheses is a number, a quoted text or a list of those, and balanced.
-/
theorem balanced_content (v : DefaultValue) : Addressing.Balanced v.content.toList := by
  cases v with
  | boolean b => cases b <;> exact Addressing.balanced_of_plain (by decide)
  | long n => exact Addressing.balanced_numberText Number.isNumberChar_of_mem_integerText
  | double x => exact Addressing.balanced_numberText (Number.isNumberChar_of_mem_text _ x)
  | string s => exact Addressing.balanced_quoted s
  | strings items => exact Addressing.balanced_quotedList items

/-- The text of a default is balanced: quotes in it are escaped. -/
theorem balanced_debug (v : DefaultValue) : Addressing.Balanced v.debug.toList := by
  have kind : Addressing.Balanced v.kind.toList := by
    apply Addressing.balanced_of_plain
    cases v <;> (dsimp only [DefaultValue.kind]; decide)
  have opening : Addressing.Balanced ['('] := Addressing.balanced_of_plain (by decide)
  have closing : Addressing.Balanced [')'] := Addressing.balanced_of_plain (by decide)
  rw [toList_debug]
  exact kind.append (opening.append (v.balanced_content.append closing))

/-- Two defaults with one text are of one kind and print the same content. -/
theorem printsAlike_of_debug {v w : DefaultValue} (h : v.debug = w.debug) : PrintsAlike v w := by
  have opening (v : DefaultValue) : '(' ∉ v.kind.toList := by cases v <;> simp [kind]
  have texts := congrArg String.toList h
  rw [toList_debug, toList_debug] at texts
  obtain ⟨front, back⟩ := Text.before_inj (opening v) (opening w) texts
  have kinds : v.kind = w.kind := String.toList_inj.1 front
  have contents : v.content = w.content := String.toList_inj.1 (List.append_cancel_right back)
  cases v with
  | boolean b =>
    cases w with
    | boolean c =>
      have same : b = c := by revert contents; cases b <;> cases c <;> decide
      rw [same]
      exact .same _
    | _ => simp [kind] at kinds
  | long n =>
    cases w with
    | long k =>
      have same : n = k := Number.int64Text_inj contents
      rw [same]
      exact .same _
    | _ => simp [kind] at kinds
  | double x =>
    cases w with
    | double y => exact .double contents
    | _ => simp [kind] at kinds
  | string s =>
    cases w with
    | string t =>
      rw [Text.quoted_inj contents]
      exact .same _
    | _ => simp [kind] at kinds
  | strings items =>
    cases w with
    | strings items' =>
      rw [Text.quotedList_inj contents]
      exact .same _
    | _ => simp [kind] at kinds

end DefaultValue

namespace Addressing

/-- The part of a key that names the default begins with its mark, and no other mark stands outside
quotes in it. -/
theorem exists_toList_fallbackKey (fallback : Option DefaultValue) :
    ∃ cs, (fallbackKey fallback).toList = '?' :: cs ∧ Balanced cs := by
  cases fallback with
  | none => exact ⟨"None".toList, rfl, balanced_of_plain (by decide)⟩
  | some v =>
    refine ⟨"Some(".toList ++ v.debug.toList ++ [')'], by simp [fallbackKey], ?_⟩
    have opening : Balanced "Some(".toList := balanced_of_plain (by decide)
    have closing : Balanced [')'] := balanced_of_plain (by decide)
    exact (opening.append v.balanced_debug).append closing

/-- That part tells the defaults apart, and a default from none. -/
theorem printsAlike_of_fallbackKey {fallback fallback' : Option DefaultValue}
    (h : fallbackKey fallback = fallbackKey fallback') :
    Option.Rel DefaultValue.PrintsAlike fallback fallback' := by
  have texts := congrArg String.toList h
  cases fallback with
  | none =>
    cases fallback' with
    | none => exact .none
    | some w => simp [fallbackKey] at texts
  | some v =>
    cases fallback' with
    | none => simp [fallbackKey] at texts
    | some w =>
      simp only [fallbackKey, String.append_left_inj, String.append_right_inj] at h
      exact .some (DefaultValue.printsAlike_of_debug h)

/-! ## Keys -/

variable {place place' front front' : String} {t t' : DeclaredType}

/-- Place and type of a key. -/
theorem typed_inj (named : t.WellNamed) (named' : t'.WellNamed)
    (h : place ++ "#" ++ t.text = place' ++ "#" ++ t'.text) :
    place = place' ∧ t.text = t'.text := by
  have texts := congrArg String.toList h
  simp only [String.toList_append, List.append_assoc] at texts
  obtain ⟨places, _, types⟩ := mark_inj (by decide) (by decide) (balanced_typeText named)
    (balanced_typeText named') texts
  exact ⟨String.toList_inj.1 places, String.toList_inj.1 types⟩

/-- What stands in front of the default in use, and the default. -/
theorem defaulted_inj {fallback fallback' : Option DefaultValue}
    (h : front ++ fallbackKey fallback = front' ++ fallbackKey fallback') :
    front = front' ∧ Option.Rel DefaultValue.PrintsAlike fallback fallback' := by
  obtain ⟨cs, text, balanced⟩ := exists_toList_fallbackKey fallback
  obtain ⟨cs', text', balanced'⟩ := exists_toList_fallbackKey fallback'
  have texts := congrArg String.toList h
  rw [String.toList_append, String.toList_append, text, text'] at texts
  obtain ⟨fronts, _, same⟩ := mark_inj (by decide) (by decide) balanced balanced' texts
  have keys : fallbackKey fallback = fallbackKey fallback' := by
    rw [← String.toList_inj, text, text', same]
  exact ⟨String.toList_inj.1 fronts, printsAlike_of_fallbackKey keys⟩

/-- A key without a default is not one with a default. -/
theorem typed_ne_defaulted (named : t.WellNamed) (fallback : Option DefaultValue) :
    place ++ "#" ++ t.text ≠ front ++ fallbackKey fallback := by
  intro same
  obtain ⟨cs, text, balanced⟩ := exists_toList_fallbackKey fallback
  have texts := congrArg String.toList same
  rw [String.toList_append, String.toList_append, String.toList_append, text,
    List.append_assoc] at texts
  have mark := (mark_inj (by decide) (by decide) (balanced_typeText named) balanced texts).2.1
  exact absurd mark (by decide)

/-- A key falls apart at its marks in one way: the place, the text of the type and the default. -/
theorem propertyKey_inj (named : t.WellNamed) (named' : t'.WellNamed)
    {used used' : Option (Option DefaultValue)}
    (h : place ++ "#" ++ t.text ++ (used.map fallbackKey).getD "" =
      place' ++ "#" ++ t'.text ++ (used'.map fallbackKey).getD "") :
    place = place' ∧ t.text = t'.text ∧
      Option.Rel (Option.Rel DefaultValue.PrintsAlike) used used' := by
  cases used with
  | none =>
    cases used' with
    | none =>
      obtain ⟨places, types⟩ := typed_inj named named' (by simpa using h)
      exact ⟨places, types, .none⟩
    | some fallback' => exact absurd (by simpa using h) (typed_ne_defaulted named fallback')
  | some fallback =>
    cases used' with
    | none => exact absurd (by simpa using h.symm) (typed_ne_defaulted named' fallback)
    | some fallback' =>
      obtain ⟨typed, fallbacks⟩ := defaulted_inj h
      obtain ⟨places, types⟩ := typed_inj named named' typed
      exact ⟨places, types, .some fallbacks⟩

end Addressing

namespace Method

/-- A getter or setter of a property, with its address. -/
def AddressesProperty (m : Method) (settings : Settings) (address : Address) : Prop :=
  (m.category settings = .propertyGetter ∨ m.category settings = .propertySetter) ∧
    m.address settings = .ok (some address)

/-- The declared result, when there is one, was read from a text. -/
def ReturnsNamed (m : Method) : Prop :=
  ∀ t, m.returns = some t → ∃ s, DeclaredType.parse s = .ok t

variable {m n : Method} {settings : Settings} {A B : Address}

theorem AddressesProperty.property (h : m.AddressesProperty settings A) :
    Addressing.property m settings = .ok A := by
  obtain ⟨category, located⟩ := h
  have address : m.address settings = (Addressing.property m settings).map some := by
    rcases category with getter | setter
    · rw [Method.address, getter, addressFor]
    · rw [Method.address, setter, addressFor]
  rw [address] at located
  obtain ⟨_, property, same⟩ := map_eq_ok.1 located
  rw [property, Option.some.inj same]

/-- A getter without a return type reads a string, and that type names nothing. -/
theorem ReturnsNamed.wellNamed (h : m.ReturnsNamed) : (m.returns.getD .string).WellNamed := by
  cases returns : m.returns with
  | none => trivial
  | some t =>
    obtain ⟨s, read⟩ := h t returns
    exact DeclaredType.wellNamed_of_parse read

/-- Two property accessors with one cache key read the property of one name, at paths that are
both empty or differ in the separators at their ends at most, as types of one text, and either
none of them has a default in use or both have, the same one up to the text of a double. -/
theorem cacheKey_inj (own : m.AddressesProperty settings A) (other : n.AddressesProperty settings B)
    (returns : m.ReturnsNamed) (returns' : n.ReturnsNamed) (shared : A.cacheKey = B.cacheKey) :
    A.key = B.key ∧ (A.path = "" ↔ B.path = "") ∧
      Text.dropTrailing (· == '/') A.path.toList = Text.dropTrailing (· == '/') B.path.toList ∧
      (m.returns.getD .string).text = (n.returns.getD .string).text ∧
      Option.Rel (Option.Rel DefaultValue.PrintsAlike) m.usedFallback n.usedFallback := by
  obtain ⟨leafA, keyA⟩ := Addressing.property_eq_ok own.property
  obtain ⟨leafB, keyB⟩ := Addressing.property_eq_ok other.property
  rw [keyA, keyB, propertyCacheKey_eq, propertyCacheKey_eq] at shared
  obtain ⟨places, types, fallbacks⟩ :=
    Addressing.propertyKey_inj returns.wellNamed returns'.wellNamed shared
  obtain ⟨keys, empty, paths⟩ := Addressing.under_inj leafA leafB places
  exact ⟨keys, empty, paths, types, fallbacks⟩

/-- The marks and quotes in a name and in a default do not count, the separator behind the path
`a/` does not either. -/
theorem cacheKey_inj_trailing :
    let access (path : String) : PropertyAccess :=
      ⟨path, "x#?\"", some (.strings ["#Long?Some(", "\"\\"]), true⟩
    let m : Method := ⟨"getX", [], some .long, some (.property (access "a/")), ""⟩
    let n : Method := ⟨"getY", [], some .long, some (.property (access "a")), ""⟩
    ∃ A B, m.AddressesProperty .standard A ∧ n.AddressesProperty .standard B ∧ m.ReturnsNamed ∧
      n.ReturnsNamed ∧ A.cacheKey = B.cacheKey ∧ A.path ≠ B.path ∧ A.key = B.key ∧
      Text.dropTrailing (· == '/') A.path.toList = Text.dropTrailing (· == '/') B.path.toList := by
  intro access m n
  have returns {k : Method} (long : k.returns = some .long) : k.ReturnsNamed := by
    intro t eq
    rw [long] at eq
    cases eq
    exact ⟨"Long", DeclaredType.parse_text (t := .long) trivial⟩
  let key := Addressing.propertyCacheKey n "a" "x#?\""
  have own : m.AddressesProperty .standard ⟨"a/", "x#?\"", false, key⟩ :=
    ⟨.inl (by decide +kernel), by decide +kernel⟩
  have other : n.AddressesProperty .standard ⟨"a", "x#?\"", false, key⟩ :=
    ⟨.inl (by decide +kernel), by decide +kernel⟩
  have alike := cacheKey_inj own other (returns rfl) (returns rfl) rfl
  exact ⟨_, _, own, other, returns rfl, returns rfl, rfl, by decide, alike.1, alike.2.2.1⟩

end Method
end TreeAdapter
