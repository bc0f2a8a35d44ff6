import TreeAdapter.Document.Word
import TreeAdapter.Interface.Method

/-!
# Declarations from documents

The written form of interfaces and methods. A method refuses members that it does not know and
more than one accessor; elsewhere unknown members are ignored.
-/

namespace TreeAdapter
set_option autoImplicit false
open Document

/-- A text of a list of texts. -/
def DefaultValue.decodeItem (d : Document) : Decoding String := do
  match ← (← d.follow).typed with
  | .text s => return s
  | _ => throw .mismatch

/-- A default: a truth value, a number, a text or a list of texts. -/
def DefaultValue.decode (d : Document) : Decoding DefaultValue := do
  match ← (← d.follow).typed with
  | .bool b => return .boolean b
  | .integer n =>
    match Number.int64? n with
    | some word => return .long word
    | none => return .double (Double.ofInt n)
  | .float x => return .double x
  | .text s => return .string s
  | .list _ items | .row items => return .strings (← items.mapM DefaultValue.decodeItem)
  | _ => throw .mismatch

def PropertyAccess.shape : RecordShape PropertyAccess where
  fields := ["path", "name", "default", "use_default"]
  strict := false
  step access field d := do
    match field with
    | "path" => return { access with path := ← d.string }
    | "name" => return { access with name := ← d.string }
    | "default" => return { access with fallback := ← d.optional DefaultValue.decode }
    | _ => return { access with useFallback := ← d.boolean }

def PropertyAccess.decode (d : Document) : Decoding PropertyAccess :=
  PropertyAccess.shape.decode ⟨"", "", none, false⟩ d

def ReferenceAccess.shape : RecordShape ReferenceAccess where
  fields := ["path"]
  strict := false
  step _ _ d := do return ⟨← d.string⟩

def ReferenceAccess.decode (d : Document) : Decoding ReferenceAccess :=
  ReferenceAccess.shape.decode ⟨""⟩ d

def ChildrenAccess.shape : RecordShape ChildrenAccess where
  fields := ["path", "element", "filter"]
  strict := false
  step access field d := do
    match field with
    | "path" => return { access with path := ← d.string }
    | "element" => return { access with element := ← d.declaredType }
    | _ => return { access with filter := ChildFilter.ofText (← d.string) }

def ChildrenAccess.decode (d : Document) : Decoding ChildrenAccess :=
  ChildrenAccess.shape.decode ⟨"", .resource, .all⟩ d

/-- A method while its members are read. -/
structure MethodDraft where
  name : Option String
  params : List DeclaredType
  returns : Option DeclaredType
  property : Option PropertyAccess
  reference : Option ReferenceAccess
  children : Option ChildrenAccess

namespace MethodDraft

def empty : MethodDraft := ⟨none, [], none, none, none, none⟩

def shape : RecordShape MethodDraft where
  fields := ["name", "params", "returns", "property", "reference", "children"]
  strict := true
  step draft field d := do
    match field with
    | "name" => return { draft with name := some (← d.string) }
    | "params" => return { draft with params := ← d.listOf Document.declaredType }
    | "returns" => return { draft with returns := ← d.optional Document.declaredType }
    | "property" => return { draft with property := ← d.optional PropertyAccess.decode }
    | "reference" => return { draft with reference := ← d.optional ReferenceAccess.decode }
    | _ => return { draft with children := ← d.optional ChildrenAccess.decode }

/-- The accessors that a draft carries. -/
def accessors (draft : MethodDraft) : List Accessor :=
  (draft.property.map Accessor.property).toList ++
    (draft.reference.map Accessor.reference).toList ++
    (draft.children.map Accessor.children).toList

def finish (draft : MethodDraft) : Except DecodeError Method :=
  match draft.name, draft.accessors with
  | none, _ => .error .mismatch
  | some name, [] => .ok ⟨name, draft.params, draft.returns, none, ""⟩
  | some name, [accessor] => .ok ⟨name, draft.params, draft.returns, some accessor, ""⟩
  | some name, _ => .error (.severalAccessors name)

end MethodDraft

def Method.decode (d : Document) : Decoding Method := do
  (← MethodDraft.shape.decode MethodDraft.empty d).finish

/-- A record while its members are read; the first field has to be there. -/
abbrev Draft (α : Type) := Option String × α

def Draft.finish {α : Type} (withName : String → α → α) : Draft α → Except DecodeError α
  | (some name, a) => .ok (withName name a)
  | (none, _) => .error .mismatch

def ServiceBinding.shape : RecordShape (Draft ServiceBinding) where
  fields := ["service", "pid", "filter", "implementation"]
  strict := false
  step draft field d := do
    match field with
    | "service" => return (some (← d.string), draft.2)
    | "pid" => return (draft.1, { draft.2 with pid := ← d.optional Document.string })
    | "filter" => return (draft.1, { draft.2 with filter := ← d.optional Document.string })
    | _ => return (draft.1, { draft.2 with implementation := ← d.optional Document.string })

def ServiceBinding.decode (d : Document) : Decoding ServiceBinding := do
  let draft ← ServiceBinding.shape.decode (none, ⟨"", none, none, none⟩) d
  draft.finish fun service b => { b with service := service }

def Declaration.shape : RecordShape (Draft Declaration) where
  fields := ["name", "extends", "methods", "services"]
  strict := false
  step draft field d := do
    match field with
    | "name" => return (some (← d.string), draft.2)
    | "extends" => return (draft.1, { draft.2 with parents := ← d.listOf Document.string })
    | "methods" => return (draft.1, { draft.2 with methods := ← d.listOf Method.decode })
    | _ => return (draft.1, { draft.2 with services := ← d.listOf ServiceBinding.decode })

def Declaration.decode (d : Document) : Decoding Declaration := do
  let draft ← Declaration.shape.decode (none, ⟨"", [], [], []⟩) d
  draft.finish fun name declaration => { declaration with name := name }

/-- The top level of a file of declarations. -/
def Declaration.fileShape : RecordShape (Option (List Declaration)) where
  fields := ["interfaces"]
  strict := false
  step _ _ d := do return some (← d.listOf Declaration.decode)

def Declaration.decodeFile (d : Document) : Decoding (List Declaration) := do
  match ← Declaration.fileShape.decode none d with
  | some declarations => return declarations
  | none => throw .mismatch

end TreeAdapter
