import TreeAdapter.CommandLine.Command
import TreeAdapter.Loading
import TreeAdapter.Text.Column
import TreeAdapter.Tree.Loader
import TreeAdapter.World.Dispatch

/-!
# Reports

What a command prints, from the texts of the files that it reads. The settings are loaded before
the interfaces, and these before the tree; the first failure ends the command.
-/

namespace TreeAdapter.CommandLine
set_option autoImplicit false

/-- Why a command fails. -/
inductive CommandError where
  | config (cause : LoadError)
  | interfaces (cause : LoadError)
  | tree (cause : TreeError)
  | adapter (cause : AdapterError)
  /-- So many interfaces have no accessor. -/
  | unadaptable (count : Nat)
deriving DecidableEq

def CommandError.message : CommandError → String
  | config cause => "Failed to load config: " ++ cause.message
  | interfaces cause => "Failed to load interfaces: " ++ cause.message
  | tree cause => "Failed to load tree: " ++ cause.message
  | adapter cause => cause.message
  | unadaptable count => Number.integerText count ++ " interface(s) cannot be adapted"

/-- What a command has printed, and why it failed. -/
structure Report where
  output : String
  failure : Option CommandError

def Report.exitCode (r : Report) : Nat :=
  if r.failure.isSome then 1 else 0

/-- The text of a file, when it can be read. -/
abbrev Files := String → Option String

/-- The settings of a file with the extension `json` are JSON, and of any other file YAML. -/
def isJsonFile (file : String) : Bool :=
  match Text.cutLast '.' (file.toList.reverse.takeWhile (· != '/')).reverse with
  | some (stem, extension) => !stem.isEmpty && extension == "json".toList
  | none => false

def loadSettings (files : Files) : Option String → Except CommandError Settings
  | none => .ok Settings.standard
  | some file =>
    match files file with
    | none => .error (.config .io)
    | some text =>
      (if isJsonFile file then Settings.ofJsonText text else Settings.ofYamlText text).mapError
        .config

def loadRegistry (files : Files) (file : String) : Except CommandError Registry :=
  match files file with
  | none => .error (.interfaces .io)
  | some text => (Registry.ofYamlText text).mapError .interfaces

def loadTree (files : Files) (file : String) : Except CommandError Tree :=
  match files file with
  | none => .error (.tree .io)
  | some text => (Tree.ofText text).mapError .tree

/-- The description and the identity hash of an adapter over the resource at a path. -/
def inspection (settings : Settings) (registry : Registry) (tree : Tree) (path interface : String) :
    Except CommandError String :=
  let factory : Factory := { (default : Factory) with registry := registry, settings := settings }
  match (World.ofTrees [tree]).adaptAt factory 0 path interface with
  | .error e => .error (.adapter e)
  | .ok (w, a) =>
    .ok ((w.describe a).2 ++ "\n\nIdentity hash: " ++ Number.int64Text a.hash ++ "\n")

/-- The line of a method: its name and arity, its category and the interface that declares it. -/
def methodLine (settings : Settings) (m : Method) : String :=
  "  " ++ Text.alignLeft 28 (m.name ++ "/" ++ Number.integerText m.arity) ++ " " ++
    Text.alignLeft 24 (m.category settings).text ++ " " ++ m.declaredIn ++ "\n"

def interfaceLines (settings : Settings) (i : Interface) : String :=
  i.name ++ "  [" ++ ", ".intercalate i.exposed.keys ++ "]\n" ++
    String.join (i.methods.map (methodLine settings)) ++
    if i.isAdaptable settings then ""
    else "  (not adaptable: no property, reference or child-collection accessor)\n"

/-- The lines of all interfaces in the order of their names. -/
def validation (settings : Settings) (registry : Registry) : Report :=
  let interfaces := registry.interfaces.values
  let unadaptable := (interfaces.filter fun i => !i.isAdaptable settings).length
  if interfaces.isEmpty then ⟨"No interfaces declared.\n", none⟩
  else
    ⟨String.join (interfaces.map (interfaceLines settings)),
      if unadaptable = 0 then none else some (.unadaptable unadaptable)⟩

/-- What a command prints. -/
def run (files : Files) (command : Command) : Report :=
  let report : Except CommandError Report := do
    match command with
    | .inspect tree interfaces interface path config =>
      let settings ← loadSettings files config
      let registry ← loadRegistry files interfaces
      let tree ← loadTree files tree
      return ⟨← inspection settings registry tree path interface, none⟩
    | .validate interfaces config =>
      let settings ← loadSettings files config
      let registry ← loadRegistry files interfaces
      return validation settings registry
  match report with
  | .ok report => report
  | .error e => ⟨"", some e⟩

end TreeAdapter.CommandLine
