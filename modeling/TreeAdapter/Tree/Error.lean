import TreeAdapter.Path

/-!
# Failures of trees

Why a tree cannot be loaded or changed.
-/

namespace TreeAdapter
set_option autoImplicit false

/-- What is wrong with a document that should hold a tree. -/
inductive Malformation where
  | rootNotObject (found : String)
  | nestedArray
  | typedValueNeedsText (kind : String)
  | unknownTypedValue (kind : String)
  | badDate (text : String)
deriving DecidableEq

def Malformation.message : Malformation → String
  | rootNotObject found => "tree root must be an object, found " ++ found
  | nestedArray => "nested arrays are not properties"
  | typedValueNeedsText kind => "typed value '" ++ kind ++ "' needs a string value"
  | unknownTypedValue kind => "unknown typed value '" ++ kind ++ "'"
  | badDate text => "bad date '" ++ text ++ "'"

inductive TreeError where
  | notFound (path : String)
  | invalidPath (cause : PathError)
  | cannotRemoveRoot
  /-- A member of a document would lie above the root. -/
  | memberEscapesRoot (path : Path) (member : String)
  | malformed (cause : Malformation)
  /-- A text that should hold a tree is no JSON document. -/
  | serialization
  /-- A file that should hold a tree cannot be read. -/
  | io
deriving DecidableEq

namespace TreeError

/-- The short name of the failure. -/
def kind : TreeError → String
  | notFound _ => "NotFound"
  | invalidPath _ | cannotRemoveRoot | memberEscapesRoot .. => "InvalidPath"
  | malformed _ => "Malformed"
  | serialization => "Serialization"
  | io => "Io"

def message : TreeError → String
  | notFound path => "Resource not found: " ++ path
  | invalidPath cause => "Invalid path: " ++ cause.message
  | cannotRemoveRoot => "Invalid path: cannot remove the root"
  | memberEscapesRoot path member => "Invalid path: " ++ path.text ++ "/" ++ member
  | malformed cause => "Malformed tree: " ++ cause.message
  | serialization => "Serialization error"
  | io => "IO error"

end TreeError
end TreeAdapter
