import TreeAdapter.Document.Basic
import TreeAdapter.Settings

/-!
# Settings from documents

Every member has a default, and a member that is no setting is refused.
-/

namespace TreeAdapter.Settings
set_option autoImplicit false
open Document

def shape : RecordShape Settings where
  fields := ["backing_resource_method", "namespace_placeholder", "namespace_separator",
    "lenient_keys", "content_node"]
  strict := true
  step settings field d := do
    match field with
    | "backing_resource_method" => return { settings with backingResourceMethod := ← d.string }
    | "namespace_placeholder" => return { settings with namespacePlaceholder := ← d.char }
    | "namespace_separator" => return { settings with namespaceSeparator := ← d.char }
    | "lenient_keys" => return { settings with lenientKeys := ← d.boolean }
    | _ => return { settings with contentNode := ← d.string }

def decode (d : Document) : Decoding Settings :=
  shape.decode standard d

end TreeAdapter.Settings
