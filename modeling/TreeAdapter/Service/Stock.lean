import TreeAdapter.Service.Script

/-!
# Services of the shelf

A few services that need no code of their own.
-/

namespace TreeAdapter.Service
set_option autoImplicit false

/-- Always the same value. -/
def fixed (v : Value) : Service where
  respond _ := .answer (.ok v)

/-- The name of the method and the arguments. -/
def echo : Service where
  respond call := .answer (.ok (.array (.string call.method :: call.args)))

/-- How many calls there have been. -/
def counter : Service where
  respond call := .answer (.ok (.long (Int64.ofNat call.count)))

/-- The adapter that is served. -/
def self : Service where
  respond call := .answer (.ok (.adapter call.adapter))

/-- Invokes the method that the first argument names with the other arguments. -/
def delegate : Service where
  respond call :=
    match call.args with
    | .string method :: rest => .invoke call.adapter method rest .answer
    | _ => .answer (.error (.invalidArguments (call.method ++ " needs a method name")))

/-- The method whose answer is the name of an adapter. -/
def nameMethod : String := "getName"

/-- A greeting from the adapter's name to the one that the only argument names. -/
def greet (style : String) : Service where
  respond call :=
    match call.args with
    | [.string guest] =>
      .invoke call.adapter nameMethod [] fun outcome => .answer <|
        match outcome with
        | .ok (.string name) => .ok (.string (style ++ " " ++ guest ++ ", " ++ name))
        | .ok other => .error (.coercion ⟨other.typeName, "String"⟩)
        | .error e => .error e
    | _ => .answer (.error (.noSuchAccessor (.refused call.method)))

/-- Does nothing but say so. -/
def unsupported (what : String) : Service where
  respond _ := .answer (.error (.unsupported what))

end TreeAdapter.Service
