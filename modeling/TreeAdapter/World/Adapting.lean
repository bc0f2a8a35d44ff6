import TreeAdapter.World.Basic

/-!
# Building adapters

A factory builds an adapter over a resource that exists. A resource becomes a declared type in
this order: the handle itself, an object that the tree gives, a nested adapter, and `null` when
none of these can be had.
-/

namespace TreeAdapter.World
set_option autoImplicit false

/-- An adapter that exposes an interface over a resource. -/
def adapt (w : World) (factory : Factory) (r : Resource) (interface : String) :
    Except AdapterError (World × Adapter) := do
  if !w.holds r then throw (.invalidSpec (.missingBacking r.path.text))
  return w.newAdapter factory (← factory.interface interface) r

/-- An adapter over the resource at a path. -/
def adaptAt (w : World) (factory : Factory) (tree : Nat) (path interface : String) :
    Except AdapterError (World × Adapter) :=
  match w.openPath tree path with
  | none => .error (.resourceNotFound path)
  | some r => w.adapt factory r interface

/-- A resource as a declared type. -/
def materialize (w : World) (factory : Factory) (r : Resource) (declared : DeclaredType) :
    World × Value :=
  if declared = .resource then (w, .resource r)
  else
    match w.adaptObject r declared.targetName with
    | some (w, o) => (w, .object o)
    | none =>
      match w.adapt factory r declared.targetName with
      | .ok (w, a) => (w, .adapter a)
      | .error _ => (w, .null)

/-- Whether a child collection has an element left, which a look ahead tells. -/
def hasNext (w : World) (c : Children) : World × Bool :=
  let (cursor, more) := (w.cursor c.id).peek
  (w.setCursor c.id cursor, more)

/-- Takes the next element of a child collection. -/
def next (w : World) (c : Children) : World × Option Value :=
  let (cursor, entry) := (w.cursor c.id).take
  let w := w.setCursor c.id cursor
  match entry with
  | none => (w, none)
  | some none => (w, some .null)
  | some (some r) =>
    let (w, v) := w.materialize cursor.factory r c.element
    (w, some v)

end TreeAdapter.World
