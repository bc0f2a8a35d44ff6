import TreeAdapter.Text.Split

/-!
# Paths

A path is the list of plain segments from the root down to a node. Its text is `/`, or each
segment with `/` in front. Joining reads a text the way it is written: empty segments and `.`
stay, `..` climbs, and a climb above the root has no result.
-/

namespace TreeAdapter
set_option autoImplicit false

/-- A name that one step of a path can have: not empty, no `/`, and neither `.` nor `..`. -/
def IsPlainSegment (s : String) : Prop :=
  s ≠ "" ∧ '/' ∉ s.toList ∧ s ≠ "." ∧ s ≠ ".."

instance (s : String) : Decidable (IsPlainSegment s) := by
  unfold IsPlainSegment; infer_instance

abbrev Segment := { s : String // IsPlainSegment s }

/-- The segments from the root down. -/
structure Path where
  segments : List Segment
deriving DecidableEq

namespace Path

def root : Path := ⟨[]⟩

def isRoot (p : Path) : Bool :=
  p.segments.isEmpty

/-- `/`, or each segment with `/` in front. -/
def text (p : Path) : String :=
  if p.segments.isEmpty then "/" else String.join (p.segments.map fun s => "/" ++ s.val)

/-- The last segment; empty for the root. -/
def name (p : Path) : String :=
  match p.segments.getLast? with
  | some s => s.val
  | none => ""

def parent? (p : Path) : Option Path :=
  if p.isRoot then none else some ⟨p.segments.dropLast⟩

/-- The path one segment below. -/
def child (p : Path) (s : Segment) : Path :=
  ⟨p.segments ++ [s]⟩

/-- One written segment walked from `p`. -/
def step (p : Path) (segment : String) : Option Path :=
  if segment = ".." then p.parent?
  else if h : IsPlainSegment segment then some (p.child ⟨segment, h⟩)
  else some p

/-- The segments of a text as they are written. -/
def written (text : String) : List String :=
  (Text.splitOn '/' text.toList).map String.ofList

def isAbsolute (text : String) : Bool :=
  text.toList.head? == some '/'

/-- The written segments walked one after the other. -/
def walk (p : Path) (segments : List String) : Option Path :=
  segments.foldlM step p

/-- `text` resolved against `p`: an absolute text starts at the root. Nothing when `..` would
climb above it. -/
def join (p : Path) (text : String) : Option Path :=
  (if isAbsolute text then root else p).walk (written text)

end Path

/-- Why a text is not a path. -/
inductive PathError where
  | notAbsolute (text : String)
  | escapesRoot (text : String)
deriving DecidableEq

namespace PathError

def message : PathError → String
  | notAbsolute text => "not absolute: " ++ text
  | escapesRoot text => "escapes the root: " ++ text

end PathError

/-- The path that an absolute text stands for. -/
def Path.parse (text : String) : Except PathError Path :=
  if isAbsolute text then
    match root.join text with
    | some p => .ok p
    | none => .error (.escapesRoot text)
  else .error (.notAbsolute text)

end TreeAdapter
