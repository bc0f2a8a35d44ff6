import TreeAdapter.World.Reading

/-!
# Dispatch

A call is looked up by name and number of arguments, put into its category and answered: by an
accessor, by the identity of the adapter, or by the service bound for the interface that declares
the method. Services may call adapters in turn; how deep calls may nest is a parameter, and a call
that nests deeper has no answer.
-/

namespace TreeAdapter.World
set_option autoImplicit false

/-- A method that every adapter has without declaring it. -/
def implicitMethod (a : Adapter) (name : String) (arity : Nat) : Method where
  name := name
  params := List.replicate arity (.object "Any")
  returns := none
  accessor := none
  declaredIn := a.interface.name

/-- The identity methods and the backing-resource method need no declaration. -/
def isImplicit (settings : Settings) (name : String) : Bool :=
  (IdentityMethod.ofName? name).isSome || name == settings.backingResourceMethod

/-- The method that answers a call. -/
def lookup (a : Adapter) (settings : Settings) (name : String) (arity : Nat) :
    Except AdapterError Method :=
  match a.interface.method? name arity with
  | some m => .ok m
  | none =>
    if isImplicit settings name then .ok (implicitMethod a name arity)
    else .error (.noSuchAccessor (.undeclared a.interface.name name arity))

/-- The answer of a getter or a setter at its address. -/
def answerAt (w : World) (a : Adapter) (m : Method) (address : Address) : World × Outcome :=
  match m.category (w.factoryOf a).settings, m.accessor with
  | .propertyGetter, _ => w.getProperty a m address
  | .referenceGetter, _ => w.getReference a m address
  | .childrenGetter, some (.children access) => w.getChildren a access address
  | _, _ => (w, .error (.readOnly m.name))

/-- The answer of a getter, a setter or the backing-resource method. -/
def read (w : World) (a : Adapter) (m : Method) : World × Outcome :=
  let settings := (w.factoryOf a).settings
  if m.category settings = .backingResource then (w, .ok (.resource a.resource))
  else
    match m.requiredAddress settings with
    | .error e => (w, .error e)
    | .ok address => w.answerAt a m address

/-- The methods that a description lists: getters without parameters and the backing-resource
method. -/
def isListed (settings : Settings) (m : Method) : Bool :=
  m.params.isEmpty &&
    ((m.category settings).isAccessor || decide (m.category settings = .backingResource))

/-- One entry of a description: the value in braces, or the failure. -/
def entryText (name : String) : Outcome → String
  | .ok v => "\n\t" ++ name ++ " = \x7b" ++ v.text ++ "\x7d"
  | .error e => "\n\t" ++ name ++ " = " ++ e.kind ++ ": " ++ e.message

/-- A call without arguments to a listed method. -/
def readNamed (w : World) (a : Adapter) (name : String) : World × Outcome :=
  match lookup a (w.factoryOf a).settings name 0 with
  | .error e => (w, .error e)
  | .ok m => w.read a m

/-- The entries of a description in the order of the methods; each call is made in turn. -/
def entries (w : World) (a : Adapter) : List Method → World × List String
  | [] => (w, [])
  | m :: rest =>
    let (w, outcome) := w.readNamed a m.name
    let (w, texts) := w.entries a rest
    (w, entryText m.name outcome :: texts)

/-- The exposed interfaces in order, then the value of every listed method. -/
def describe (w : World) (a : Adapter) : World × String :=
  let listed := a.interface.methods.filter (isListed (w.factoryOf a).settings)
  let (w, texts) := w.entries a listed
  (w, "Implements: [" ++ " , ".intercalate a.interface.exposed.keys ++ "]\nGet Method Values:" ++
    String.join texts)

/-- The answer of `equals`: whether the only argument is an adapter of the same identity. -/
def equalsAnswer (a : Adapter) (args : List Value) : Outcome :=
  match args with
  | [.adapter b] => .ok (.bool (a.sameIdentity b))
  | [_] => .ok (.bool false)
  | args => .error (.equalsArity args.length)

/-- The service that an adapter has for a binding, which is searched for and built when it has
none yet. -/
def serviceFor (w : World) (a : Adapter) (b : ServiceBinding) : World × Except AdapterError Nat :=
  match w.service? a b.service with
  | some id => (w, .ok id)
  | none =>
    match (w.factoryOf a).services.resolve w.searches b with
    | .error e => (w.countSearch, .error e)
    | .ok service =>
      let (w, id) := w.countSearch.newService a b.service service
      (w, .ok id)

/-- Counts a call of a service and gives the script that answers it. -/
def callService (w : World) (a : Adapter) (id : Nat) (method : String) (args : List Value) :
    World × Script :=
  match w.services[id]? with
  | none => (w, .answer (.error (.noSuchAccessor (.refused method))))
  | some s =>
    let count := s.calls + 1
    ({ w with services := w.services.setIfInBounds id { s with calls := count } },
      s.service.respond ⟨a, count, method, args⟩)

/-- Plays a script, its calls answered by `invoke`. -/
def play (invoke : World → Adapter → String → List Value → Option (World × Outcome)) :
    Script → World → Option (World × Outcome)
  | .answer outcome, w => some (w, outcome)
  | .invoke a method args next, w =>
    match invoke w a method args with
    | none => none
    | some (w, outcome) => play invoke (next outcome) w

/-- Forwards a call to the service bound for the interface that declares the method. -/
def forward (invoke : World → Adapter → String → List Value → Option (World × Outcome))
    (w : World) (a : Adapter) (m : Method) (args : List Value) : Option (World × Outcome) :=
  match a.interface.binding? m.declaredIn with
  | none => some (w, .error (.noSuchAccessor (.unbound m.name m.declaredIn)))
  | some b =>
    match w.serviceFor a b with
    | (w, .error e) => some (w, .error e)
    | (w, .ok id) =>
      let (w, script) := w.callService a id m.name args
      play invoke script w

/-- One call, in which calls may nest less than `depth` deep. -/
def dispatch : Nat → World → Adapter → String → List Value → Option (World × Outcome)
  | 0, _, _, _, _ => none
  | depth + 1, w, a, name, args =>
    let settings := (w.factoryOf a).settings
    match lookup a settings name args.length with
    | .error e => some (w, .error e)
    | .ok m =>
      match m.category settings with
      | .identity .toString =>
        let (w, text) := w.describe a
        some (w, .ok (.string text))
      | .identity .hashCode => some (w, .ok (.long a.hash))
      | .identity .equals => some (w, equalsAnswer a args)
      | .unrecognized => forward (dispatch depth) w a m args
      | _ => some (w.read a m)

/-- How deep calls may nest. -/
def nestingLimit : Nat := 1000

/-- One call to an adapter. -/
def invoke (w : World) (a : Adapter) (method : String) (args : List Value) :
    Option (World × Outcome) :=
  dispatch nestingLimit w a method args

end TreeAdapter.World
