import TreeAdapter.Error
import TreeAdapter.NameMap
import TreeAdapter.Text.Blank
import TreeAdapter.Text.Split

/-!
# Service filters

The filters that select a service by its properties: `(key=value)`, `(key=*)` for presence, and
`(&(a=1)(b=2))` for several conditions that all have to hold.
-/

namespace TreeAdapter
set_option autoImplicit false

/-- One condition: a key and the value asked for, or `*`. -/
structure Clause where
  key : String
  value : String
deriving DecidableEq

namespace Clause
open Text

/-- The characters that no key holds. -/
def isReserved (c : Char) : Bool :=
  c == '(' || c == ')' || c == '&' || c == '|' || c == '!'

/-- A key that is not empty, `=`, and a value; white space around both does not count. -/
def parse (cs : List Char) : Option Clause :=
  match cutFirst '=' cs with
  | none => none
  | some (key, value) =>
    let key := trimChars key
    if key.isEmpty || key.any isReserved then none
    else some ⟨String.ofList key, String.ofList (trimChars value)⟩

/-- The properties meet the condition. -/
def holds (c : Clause) (properties : NameMap String) : Bool :=
  match properties.get? c.key with
  | some actual => c.value == "*" || actual == c.value
  | none => false

end Clause

namespace Filter
open Text

theorem length_lt_of_cutFirst {sep : Char} {cs before after : List Char}
    (h : cutFirst sep cs = some (before, after)) : after.length < cs.length := by
  obtain ⟨rfl, _⟩ := cutFirst_eq_some h
  simp only [List.length_append, List.length_cons]
  omega

/-- The texts of parenthesized clauses, with white space after each. -/
def clauseTexts (cs : List Char) : Option (List (List Char)) :=
  match cs with
  | [] => some []
  | '(' :: rest =>
    match _h : cutFirst ')' rest with
    | none => none
    | some (clause, after) => (clauseTexts (after.dropWhile isBlank)).map (clause :: ·)
  | _ :: _ => none
termination_by cs.length
decreasing_by
  have := length_lt_of_cutFirst _h
  have := (List.dropWhile_suffix (l := after) isBlank).length_le
  simp only [List.length_cons]
  omega

/-- What stands between the outer parentheses. -/
def body (filter : String) : Option (List Char) :=
  match trimChars filter.toList with
  | '(' :: rest => if rest.getLast? = some ')' then some rest.dropLast else none
  | _ => none

/-- The texts of the clauses of a filter; none of them for `&` with nothing behind it. -/
def texts (filter : String) : Option (List (List Char)) :=
  match body filter with
  | none => none
  | some ('&' :: rest) => clauseTexts (trimChars rest)
  | some single => some [single]

def clauses? (filter : String) : Option (List Clause) :=
  match texts filter with
  | none | some [] => none
  | some texts => texts.mapM Clause.parse

/-- The conditions of a filter, at least one. -/
def parse (filter : String) : Except AdapterError (List Clause) :=
  match clauses? filter with
  | some clauses => .ok clauses
  | none => .error (.invalidSpec (.unsupportedFilter filter))

end Filter
end TreeAdapter
