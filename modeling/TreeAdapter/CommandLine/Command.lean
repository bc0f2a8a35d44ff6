import TreeAdapter.NameMap
import TreeAdapter.Text.Split

/-!
# Commands

The arguments of a command: an action, then options with one value each, behind a blank or an
`=`. No option is given twice, and a value that begins with a hyphen is taken only behind `=`.
Flags that make a log more talkative may stand anywhere and change no answer.
-/

namespace TreeAdapter.CommandLine
set_option autoImplicit false

inductive Command where
  /-- Describes the adapter of an interface over the resource at a path. -/
  | inspect (tree interfaces interface path : String) (config : Option String)
  /-- Lists the interfaces of a file with the categories of their methods. -/
  | validate (interfaces : String) (config : Option String)
deriving DecidableEq

/-- An option: its name, and whether its value may be empty, which the name of a file may not. -/
structure OptionRule where
  name : String
  mayBeEmpty : Bool

def inspectOptions : List OptionRule :=
  [⟨"tree", false⟩, ⟨"interfaces", false⟩, ⟨"interface", true⟩, ⟨"path", true⟩, ⟨"config", false⟩]

def validateOptions : List OptionRule :=
  [⟨"interfaces", false⟩, ⟨"config", false⟩]

/-- A flag that makes the log more talkative. -/
def isVerbosity (arg : String) : Bool :=
  arg == "--verbose" ||
    match arg.toList with
    | '-' :: 'v' :: more => more.all (· == 'v')
    | _ => false

/-- The values given so far with one more. -/
def addOption (rules : List OptionRule) (given : NameMap String) (name value : String) :
    Option (NameMap String) :=
  match rules.find? (·.name == name) with
  | none => none
  | some rule =>
    if given.contains name || (value == "" && !rule.mayBeEmpty) then none
    else some (given.insert name value)

/-- The values of the options, after those given so far. -/
def readOptions (rules : List OptionRule) (given : NameMap String) :
    List String → Option (NameMap String)
  | [] => some given
  | arg :: rest =>
    if isVerbosity arg then readOptions rules given rest
    else
      match arg.toList with
      | ['-', '-'] => if rest.isEmpty then some given else none
      | '-' :: '-' :: body =>
        match Text.cutFirst '=' body with
        | some (name, value) => do
          let given ← addOption rules given (String.ofList name) (String.ofList value)
          readOptions rules given rest
        | none =>
          match rest with
          | [] => none
          | value :: rest =>
            if value.toList.head? == some '-' && value != "-" then none
            else do
              let given ← addOption rules given (String.ofList body) value
              readOptions rules given rest
      | _ => none

/-- The command that arguments stand for. -/
def parse (args : List String) : Option Command :=
  match args.dropWhile isVerbosity with
  | "inspect" :: rest => do
    let given ← readOptions inspectOptions NameMap.empty rest
    return .inspect (← given.get? "tree") (← given.get? "interfaces") (← given.get? "interface")
      (← given.get? "path") (given.get? "config")
  | "validate" :: rest => do
    let given ← readOptions validateOptions NameMap.empty rest
    return .validate (← given.get? "interfaces") (given.get? "config")
  | _ => none

/-- The files that a command reads. -/
def Command.files : Command → List String
  | inspect tree interfaces _ _ config => tree :: interfaces :: config.toList
  | validate interfaces config => interfaces :: config.toList

end TreeAdapter.CommandLine
