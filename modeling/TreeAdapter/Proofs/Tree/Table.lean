import TreeAdapter.Proofs.Path
import TreeAdapter.Tree.Loader

/-!
# Flat tables of nodes

A table stores the nodes of a tree by their paths, and with each node the names of its children.
That a path is stored and that its parent lists its name are two facts here: the operations
establish them one after the other, and in between a table may hold one without the other. The
removal, `remove_node`, calls itself with the texts of the children that a row lists, as it finds
them, and ends with the first failure; so it is a relation, and whether it comes to an end is a
question about the table.
-/

namespace TreeAdapter
set_option autoImplicit false

/-- What a table stores at a path. -/
structure Row where
  properties : Properties
  children : List String

namespace Row

def empty : Row := ⟨NameMap.empty, []⟩

def update (f : Properties → Properties) (row : Row) : Row :=
  { row with properties := f row.properties }

def list (name : String) (row : Row) : Row :=
  { row with children := row.children ++ [name] }

def unlist (name : String) (row : Row) : Row :=
  { row with children := row.children.filter (· ≠ name) }

end Row

@[ext]
structure Table where
  row? : Path → Option Row

namespace Table

/-- The root alone. -/
def empty : Table := ⟨fun q => if q = Path.root then some Row.empty else none⟩

def contains (T : Table) (p : Path) : Bool :=
  (T.row? p).isSome

/-- The paths that the listed names lead to; a name that leads nowhere is passed over. -/
def childPaths (T : Table) (p : Path) : List Path :=
  match T.row? p with
  | some row => row.children.filterMap p.join
  | none => []

def put (T : Table) (p : Path) (row : Row) : Table :=
  ⟨fun q => if q = p then some row else T.row? q⟩

/-- `f` applied to the row of a path, when it is stored. -/
def modify (T : Table) (p : Path) (f : Row → Row) : Table :=
  ⟨fun q => if q = p then (T.row? q).map f else T.row? q⟩

/-- The table without one path; what lies below stays. -/
def drop (T : Table) (p : Path) : Table :=
  ⟨fun q => if q = p then none else T.row? q⟩

theorem row?_modify (T : Table) (p q : Path) (f : Row → Row) :
    (T.modify p f).row? q = if q = p then (T.row? q).map f else T.row? q := rfl

theorem row?_drop (T : Table) (p q : Path) :
    (T.drop p).row? q = if q = p then none else T.row? q := rfl

theorem length_parent?_lt {p q : Path} (h : p.parent? = some q) :
    q.segments.length < p.segments.length := by
  obtain ⟨s, rfl⟩ := Path.parent?_eq_some_iff.1 h
  simp [Path.child]

/-- The parent first, then the name in its list, then the path itself. -/
def ensure (T : Table) (p : Path) : Table :=
  if T.contains p then T
  else match _ : p.parent? with
    | none => T.put p Row.empty
    | some q => ((T.ensure q).modify q (Row.list p.name)).put p Row.empty
termination_by p.segments.length
decreasing_by exact length_parent?_lt ‹_›

/-- The path that a text names for removal, and its parent. -/
def removable (text : String) : Except TreeError (Path × Path) :=
  match Path.parse text with
  | .error cause => .error (.invalidPath cause)
  | .ok p =>
    match p.parent? with
    | some q => .ok (p, q)
    | none => .error .cannotRemoveRoot

mutual

/-- A removal as it goes, with its answer: the path of a text first, then the text of each child
that its row lists, and the name in the parent's list at last. -/
inductive RemovalAt : Table → String → Except TreeError Bool → Table → Prop where
  | refused {T : Table} {text : String} {e : TreeError} (cause : removable text = .error e) :
      RemovalAt T text (.error e) T
  | absent {T : Table} {text : String} {p q : Path} (named : removable text = .ok (p, q))
      (row : T.row? p = none) : RemovalAt T text (.ok false) T
  | taken {T T' : Table} {text : String} {p q : Path} {row : Row}
      (named : removable text = .ok (p, q)) (found : T.row? p = some row)
      (below : RemovalBelow (T.drop p) p row.children none T') :
      RemovalAt T text (.ok true) (T'.modify q (Row.unlist p.name))
  | broken {T T' : Table} {text : String} {p q : Path} {row : Row} {e : TreeError}
      (named : removable text = .ok (p, q)) (found : T.row? p = some row)
      (below : RemovalBelow (T.drop p) p row.children (some e) T') :
      RemovalAt T text (.error e) T'

/-- The removal of what names lead to, one after the other, up to the first failure. -/
inductive RemovalBelow : Table → Path → List String → Option TreeError → Table → Prop where
  | nil {T : Table} {p : Path} : RemovalBelow T p [] none T
  | skip {T T' : Table} {p : Path} {name : String} {rest : List String} {failure : Option TreeError}
      (nowhere : p.join name = none) (tail : RemovalBelow T p rest failure T') :
      RemovalBelow T p (name :: rest) failure T'
  | cons {T T' T'' : Table} {p c : Path} {name : String} {rest : List String} {found : Bool}
      {failure : Option TreeError} (leads : p.join name = some c)
      (head : RemovalAt T c.text (.ok found) T') (tail : RemovalBelow T' p rest failure T'') :
      RemovalBelow T p (name :: rest) failure T''
  | broken {T T' : Table} {p c : Path} {name : String} {rest : List String} {e : TreeError}
      (leads : p.join name = some c) (head : RemovalAt T c.text (.error e) T') :
      RemovalBelow T p (name :: rest) (some e) T'

end

/-- What a removal does where a row is stored: it removes what the row lists, and then takes the name
out of the parent's list unless that has failed. -/
theorem RemovalAt.exists_below {T U : Table} {text : String} {answer : Except TreeError Bool}
    (h : RemovalAt T text answer U) {p q : Path} {row : Row}
    (named : removable text = .ok (p, q)) (found : T.row? p = some row) :
    ∃ T', (RemovalBelow (T.drop p) p row.children none T' ∧ answer = .ok true ∧
        U = T'.modify q (Row.unlist p.name)) ∨
      ∃ e, RemovalBelow (T.drop p) p row.children (some e) T' ∧ answer = .error e ∧ U = T' := by
  cases h with
  | refused cause => simp [named] at cause
  | absent named' missing =>
    cases named.symm.trans named'
    simp [found] at missing
  | taken named' found' below =>
    cases named.symm.trans named'
    cases found.symm.trans found'
    exact ⟨_, .inl ⟨below, rfl, rfl⟩⟩
  | broken named' found' below =>
    cases named.symm.trans named'
    cases found.symm.trans found'
    exact ⟨_, .inr ⟨_, below, rfl, rfl⟩⟩

-- The text fixes the path and the table its row, so two courses could part only further below.
mutual

/-- A removal has one course. -/
theorem RemovalAt.unique {T T₁ T₂ : Table} {text : String} {r₁ r₂ : Except TreeError Bool} :
    RemovalAt T text r₁ T₁ → RemovalAt T text r₂ T₂ → r₁ = r₂ ∧ T₁ = T₂
  | .refused cause, other => by
    cases other with
    | refused cause' =>
      rw [cause, Except.error.injEq] at cause'
      exact ⟨congrArg _ cause', rfl⟩
    | absent named | taken named | broken named => simp [cause] at named
  | .absent named missing, other => by
    cases other with
    | refused cause => simp [named] at cause
    | absent => exact ⟨rfl, rfl⟩
    | taken named' found | broken named' found =>
      cases named.symm.trans named'
      simp [missing] at found
  | .taken named found below, other => by
    obtain ⟨T', ⟨below', rfl, rfl⟩ | ⟨e, below', -, -⟩⟩ := other.exists_below named found
    · rw [(below.unique below').2]
      exact ⟨rfl, rfl⟩
    · cases (below.unique below').1
  | .broken named found below, other => by
    obtain ⟨T', ⟨below', -, -⟩ | ⟨e, below', rfl, rfl⟩⟩ := other.exists_below named found
    · cases (below.unique below').1
    · obtain ⟨same, tables⟩ := below.unique below'
      rw [Option.some.injEq] at same
      exact ⟨congrArg _ same, tables⟩

theorem RemovalBelow.unique {T T₁ T₂ : Table} {p : Path} {names : List String}
    {f₁ f₂ : Option TreeError} :
    RemovalBelow T p names f₁ T₁ → RemovalBelow T p names f₂ T₂ → f₁ = f₂ ∧ T₁ = T₂
  | .nil, .nil => ⟨rfl, rfl⟩
  | .skip nowhere tail, other => by
    cases other with
    | skip _ tail' => exact tail.unique tail'
    | cons leads | broken leads => simp [nowhere] at leads
  | .cons leads head tail, other => by
    cases other with
    | skip nowhere => simp [nowhere] at leads
    | cons leads' head' tail' =>
      cases leads.symm.trans leads'
      rw [← (head.unique head').2] at tail'
      exact tail.unique tail'
    | broken leads' head' =>
      cases leads.symm.trans leads'
      cases (head.unique head').1
  | .broken leads head, other => by
    cases other with
    | skip nowhere => simp [nowhere] at leads
    | cons leads' head' _ =>
      cases leads.symm.trans leads'
      cases (head.unique head').1
    | broken leads' head' =>
      cases leads.symm.trans leads'
      obtain ⟨same, tables⟩ := head.unique head'
      rw [Except.error.injEq] at same
      exact ⟨congrArg _ same, tables⟩

end

theorem removable_of_root {text : String} (read : Path.parse text = .ok Path.root) :
    removable text = .error .cannotRemoveRoot := by
  simp only [removable, read, Path.parent?_root]

theorem removable_of_parent {text : String} {p q : Path} (read : Path.parse text = .ok p)
    (parent : p.parent? = some q) : removable text = .ok (p, q) := by
  simp only [removable, read, parent]

mutual

/-- `T` with a document loaded as the node at `p`. -/
def loadNode (T : Table) (p : Path) : Json → Except TreeError Table
  | .object members => loadMembers (T.ensure p) p members
  | _ => .ok (T.ensure p)

/-- `T` with members loaded into the node at `p`, one after the other. -/
def loadMembers (T : Table) (p : Path) : List (String × Json) → Except TreeError Table
  | [] => .ok T
  | (name, value) :: rest => do
    if Tree.isNodeDocument value then
      match p.join name with
      | none => throw (.memberEscapesRoot p name)
      | some child => loadMembers (← loadNode T child value) p rest
    else
      match ← Tree.propertyOf value with
      | some property => loadMembers (T.modify p (Row.update (·.insert name property))) p rest
      | none => loadMembers T p rest

end

/-- The table that a document describes. -/
def ofJson : Json → Except TreeError Table
  | .object members => loadNode empty Path.root (.object members)
  | other => .error (.malformed (.rootNotObject other.text))

end Table

/-- A call that may change a tree, with its arguments as they are written. -/
inductive TreeCall where
  | insertNode (path : String)
  | setProperty (path name : String) (value : StoredValue)
  | removeProperty (path name : String)
  | removeNode (path : String)

namespace TreeCall

def path : TreeCall → String
  | insertNode path | setProperty path _ _ | removeProperty path _ | removeNode path => path

end TreeCall

namespace Table

/-- What a call does at the path it names. -/
def CallsAt (T : Table) (p : Path) : TreeCall → Table → Prop
  | .insertNode _, T' => T' = T.ensure p
  | .setProperty _ name value, T' => T' = T.modify p (Row.update (·.insert name value))
  | .removeProperty _ name, T' => T' = T.modify p (Row.update (·.erase name))
  | .removeNode path, T' => ∃ answer, RemovalAt T path answer T'

/-- What a call does; a text that is no path changes nothing. -/
def Calls (T : Table) (call : TreeCall) (T' : Table) : Prop :=
  match Path.parse call.path with
  | .ok p => CallsAt T p call T'
  | .error _ => T' = T

/-- The calls one after the other. -/
def Runs (T : Table) : List TreeCall → Table → Prop
  | [], T' => T' = T
  | call :: rest, T' => ∃ U, Calls T call U ∧ Runs U rest T'

/-- The table at the start: of the root alone, or of a document. -/
def start : Option Json → Except TreeError Table
  | none => .ok empty
  | some document => ofJson document

end Table
end TreeAdapter
