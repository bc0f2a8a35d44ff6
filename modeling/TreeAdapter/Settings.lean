import TreeAdapter.Text.Blank

/-!
# Settings

What can be configured about the naming conventions and the content node, with the conditions
that settings have to meet.
-/

namespace TreeAdapter
set_option autoImplicit false

structure Settings where
  /-- The method name that gives the backing resource. -/
  backingResourceMethod : String
  /-- Stands for the namespace separator in method names. -/
  namespacePlaceholder : Char
  namespaceSeparator : Char
  /-- Whether a derived key also matches without regard to case and separators. -/
  lenientKeys : Bool
  /-- The child that content-free listings leave out. -/
  contentNode : String
deriving DecidableEq

inductive SettingsError where
  | emptyBackingMethod
  | samePlaceholder (c : Char)
  | contentNodeNotSegment (name : String)
deriving DecidableEq

def SettingsError.message : SettingsError → String
  | emptyBackingMethod => "Invalid configuration: backing_resource_method must not be empty"
  | samePlaceholder c =>
    "Invalid configuration: namespace_placeholder and namespace_separator are both '" ++
      String.singleton c ++ "'"
  | contentNodeNotSegment name =>
    "Invalid configuration: content_node must be a single path segment, got '" ++ name ++ "'"

namespace Settings

def standard : Settings where
  backingResourceMethod := "getBackingResource"
  namespacePlaceholder := '_'
  namespaceSeparator := ':'
  lenientKeys := false
  contentNode := "jcr:content"

/-- The settings themselves when they can be used, and else the first thing wrong with them. -/
def validated (s : Settings) : Except SettingsError Settings :=
  if Text.isBlankText s.backingResourceMethod then .error .emptyBackingMethod
  else if s.namespacePlaceholder = s.namespaceSeparator then
    .error (.samePlaceholder s.namespaceSeparator)
  else if s.contentNode = "" ∨ '/' ∈ s.contentNode.toList then
    .error (.contentNodeNotSegment s.contentNode)
  else .ok s

/-- The settings can be used. -/
def IsValid (s : Settings) : Prop :=
  s.validated = .ok s

end Settings
end TreeAdapter
