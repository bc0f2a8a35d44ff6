import TreeAdapter.Service.Directory
import TreeAdapter.Value.Basic

/-!
# Services

A service answers a call with a script: an outcome, or a call to an adapter and what to do with
its outcome. A service holds on to nothing but the number of calls it has had; the adapter that
it serves is handed to it at each call.
-/

namespace TreeAdapter
set_option autoImplicit false

inductive Script where
  | answer (outcome : Outcome)
  | invoke (adapter : Adapter) (method : String) (args : List Value) (next : Outcome → Script)

/-- One call that is forwarded to a service. -/
structure ServiceCall where
  /-- The adapter that the service serves. -/
  adapter : Adapter
  /-- How many calls the service has had, this one included. -/
  count : Nat
  method : String
  args : List Value

/-- What a service does with each call. -/
structure Service where
  respond : ServiceCall → Script

abbrev Services := ServiceDirectory Service

end TreeAdapter
