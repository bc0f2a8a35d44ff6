import TreeAdapter.Interface.Method
import TreeAdapter.Service.Filter
import TreeAdapter.Text.Quoted

/-!
# Finding services

A binding finds its service through a locator, by `pid` and then by filter, and then among the
implementations by name. The first lookup that succeeds wins.
-/

namespace TreeAdapter
set_option autoImplicit false

/-- An external lookup of services. What it has can change from one search to the next, and the
searches are numbered. -/
structure Locator (β : Type) where
  byPid (search : Nat) (service pid : String) : Option β
  byFilter (search : Nat) (service filter : String) : Except AdapterError (Option β)

/-- A service that a static locator knows. -/
structure ServiceEntry (β : Type) where
  service : String
  pid : Option String
  properties : NameMap String
  build : β

/-- A fixed set of services in the order they were registered. -/
structure StaticLocator (β : Type) where
  entries : List (ServiceEntry β)

namespace StaticLocator
variable {β : Type}

def byPid (l : StaticLocator β) (service pid : String) : Option β :=
  (l.entries.find? fun e => e.service == service && e.pid == some pid).map (·.build)

/-- The first entry of a service whose properties meet all clauses. -/
def matching (l : StaticLocator β) (service : String) (clauses : List Clause) : Option β :=
  (l.entries.find? fun e => e.service == service && clauses.all (·.holds e.properties)).map (·.build)

def byFilter (l : StaticLocator β) (service filter : String) : Except AdapterError (Option β) := do
  return l.matching service (← Filter.parse filter)

/-- It has the same services at every search. -/
def locator (l : StaticLocator β) : Locator β where
  byPid _ := l.byPid
  byFilter _ := l.byFilter

end StaticLocator

structure ServiceDirectory (β : Type) where
  implementations : NameMap β
  locator : Option (Locator β)

namespace ServiceDirectory
variable {β : Type}

def empty : ServiceDirectory β := ⟨NameMap.empty, none⟩

/-- What the locator has for a binding at a search. -/
def locate (d : ServiceDirectory β) (search : Nat) (b : ServiceBinding) :
    Except AdapterError (Option β) :=
  match d.locator with
  | none => .ok none
  | some locator =>
    match b.pid.bind (locator.byPid search b.service) with
    | some found => .ok (some found)
    | none =>
      match b.filter with
      | some filter => locator.byFilter search b.service filter
      | none => .ok none

def resolve (d : ServiceDirectory β) (search : Nat) (b : ServiceBinding) :
    Except AdapterError β := do
  if b.pid.isNone && b.filter.isNone && b.implementation.isNone then
    throw (.invalidSpec (.emptyBinding b.service))
  match ← d.locate search b with
  | some found => return found
  | none =>
    match b.implementation.bind d.implementations.get? with
    | some found => return found
    | none => throw (.invalidSpec (.serviceNotFound b.service))

/-- The form of a directory in diagnostics. -/
def debug (d : ServiceDirectory β) : String :=
  "ServiceRegistry \x7b implementations: " ++ Text.quotedList d.implementations.keys ++
    ", locator: " ++ (if d.locator.isSome then "true" else "false") ++ " \x7d"

end ServiceDirectory
end TreeAdapter
