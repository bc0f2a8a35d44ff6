import TreeAdapter.Proofs.Except
import TreeAdapter.Proofs.Path.Join

/-!
# Paths as bare texts

A path can also be kept as its text alone: `parse` and `join` split the text and put the pieces
together again, and `parent` and `name` are what stands around the last separator. That such a text
is in normal form is a fact about the operations then, and not about the type. `obtained_iff` shows
that they give the texts of the paths of the type and no others, each operation on a text being the
one on the path (`Denotes`).

* `Path.parts_reassemble` — normal form, and that a text, and a parent with a name, give the path
  back
-/

namespace TreeAdapter
set_option autoImplicit false

/-- A path that is its text alone. -/
structure BarePath where
  text : String
deriving DecidableEq

namespace BarePath

def root : BarePath := ⟨"/"⟩

def isRoot (b : BarePath) : Bool :=
  b.text.utf8ByteSize == 1

/-- What stands behind the last separator. -/
def name (b : BarePath) : String :=
  match Text.cutLast '/' b.text.toList with
  | some (_, last) => String.ofList last
  | none => b.text

/-- What stands before the last separator; the root when nothing does. -/
def parent? (b : BarePath) : Option BarePath :=
  if b.isRoot then none
  else match Text.cutLast '/' b.text.toList with
    | some ([], _) => some root
    | some (front, _) => some ⟨String.ofList front⟩
    | none => none

/-- The pieces between the separators, without the empty ones. -/
def pieces (b : BarePath) : List String :=
  (Path.written b.text).filter (· ≠ "")

/-- The pieces with a separator in front of each. -/
def ofPieces (pieces : List String) : BarePath :=
  let joined := String.join (pieces.map ("/" ++ ·))
  if joined = "" then ⟨"/"⟩ else ⟨joined⟩

/-- The pieces after one more is read; nothing when `..` finds none to take back. -/
def push (pieces : List String) (piece : String) : Option (List String) :=
  if piece = "" ∨ piece = "." then some pieces
  else if piece = ".." then (if pieces.isEmpty then none else some pieces.dropLast)
  else some (pieces ++ [piece])

def join (b : BarePath) (text : String) : Option BarePath :=
  ((Path.written text).foldlM push (if Path.isAbsolute text then [] else b.pieces)).map ofPieces

def parse (text : String) : Except PathError BarePath :=
  if Path.isAbsolute text then
    match root.join text with
    | some b => .ok b
    | none => .error (.escapesRoot text)
  else .error (.notAbsolute text)

/-- What the operations give, in any combination and on any texts. -/
inductive Obtained : BarePath → Prop where
  | root : Obtained root
  | parse {text : String} {b : BarePath} (read : parse text = .ok b) : Obtained b
  | join {b c : BarePath} {text : String} (base : Obtained b) (leads : b.join text = some c) :
      Obtained c
  | parent {b c : BarePath} (below : Obtained b) (above : b.parent? = some c) : Obtained c

/-- `/`, or plain segments with a separator in front of each. -/
def IsNormal (b : BarePath) : Prop :=
  b.text = "/" ∨ ∃ segments : List String, segments ≠ [] ∧ (∀ s ∈ segments, IsPlainSegment s) ∧
    b.text = String.join (segments.map ("/" ++ ·))

end BarePath

/-- The text of a path, and nothing else. -/
def Path.bare (p : Path) : BarePath := ⟨p.text⟩

/-- The operations on a text are those on a path. -/
structure BarePath.Denotes (b : BarePath) (p : Path) : Prop where
  text : b.text = p.text
  isRoot : b.isRoot = p.isRoot
  name : b.name = p.name
  parent : b.parent? = p.parent?.map Path.bare
  join : ∀ text, b.join text = (p.join text).map Path.bare

namespace Path

/-! ## The text of a path -/

/-- The segments as plain texts. -/
def names (p : Path) : List String :=
  p.segments.map (·.val)

/-- Each segment with a separator in front; nothing for the root. -/
def stem (p : Path) : String :=
  String.join (p.names.map ("/" ++ ·))

theorem names_child (p : Path) (s : Segment) : (p.child s).names = p.names ++ [s.val] := by
  simp [names, child]

/-- Every name in a path is a plain segment. -/
theorem plain_of_mem_names {p : Path} {name : String} (h : name ∈ p.names) : IsPlainSegment name := by
  obtain ⟨s, _, rfl⟩ := List.mem_map.1 h
  exact s.property

/-- The stem of a child is that of its parent with the name behind it. -/
theorem stem_child (p : Path) (s : Segment) : (p.child s).stem = p.stem ++ "/" ++ s.val := by
  rw [stem, names_child, List.map_append, String.join_append, String.append_assoc]
  simp [stem]

/-- The text of a child is the stem of its parent with the name behind it; the stem of the root is
empty. -/
theorem text_child (p : Path) (s : Segment) : (p.child s).text = p.stem ++ "/" ++ s.val := by
  rw [← stem_child]
  simp [text, child, stem, names]

/-- Below the root the stem is the text; the root is `/`, with an empty stem. -/
theorem stem_eq_text {p : Path} (below : p ≠ root) : p.stem = p.text := by
  obtain ⟨q, s, rfl⟩ := exists_eq_child below
  rw [stem_child, text_child]

theorem stem_ne {p : Path} (below : p ≠ root) : p.stem ≠ "" := by
  obtain ⟨q, s, rfl⟩ := exists_eq_child below
  intro empty
  have chars := congrArg String.toList empty
  simp [stem_child] at chars

/-- The last separator of a path's text is the one before its last segment. -/
theorem cutLast_text_child (p : Path) (s : Segment) :
    Text.cutLast '/' (p.child s).text.toList = some (p.stem.toList, s.val.toList) := by
  have chars : (p.child s).text.toList = p.stem.toList ++ '/' :: s.val.toList := by
    simp [text_child]
  rw [chars, Text.cutLast_append s.property.2.1]

/-- A stem is cut at its slashes into an empty segment and the names. -/
theorem written_stem (p : Path) : written p.stem = "" :: p.names := by
  induction p using Path.induction with
  | root => rfl
  | child p s ih =>
    have pieces := Text.splitOn_append_cons '/' p.stem.toList s.val.toList
    rw [stem_child, names_child, ← List.cons_append, ← ih]
    simp [written, pieces, Text.splitOn_of_not_mem s.property.2.1]

/-! ## The operations on its text -/

theorem isRoot_bare (p : Path) : p.bare.isRoot = p.isRoot := by
  induction p using Path.induction with
  | root => decide
  | child p s _ =>
    have named : s.val.utf8ByteSize ≠ 0 := by
      rw [ne_eq, String.utf8ByteSize_eq_zero_iff]
      exact s.property.1
    have slash : "/".utf8ByteSize = 1 := by decide
    have longer : (p.child s).text.utf8ByteSize ≠ 1 := by
      rw [text_child, String.utf8ByteSize_append, String.utf8ByteSize_append]
      omega
    rw [isRoot_child, BarePath.isRoot, bare]
    simpa using longer

/-- The name is cut off the text at the last slash. -/
theorem name_bare (p : Path) : p.bare.name = p.name := by
  induction p using Path.induction with
  | root => decide
  | child p s _ => simp [BarePath.name, bare, cutLast_text_child]

/-- The parent is what is left of the text in front of the last slash. -/
theorem parent?_bare (p : Path) : p.bare.parent? = p.parent?.map bare := by
  rw [BarePath.parent?, isRoot_bare]
  induction p using Path.induction with
  | root => rfl
  | child p s _ =>
    rw [isRoot_child, bare, cutLast_text_child, parent?_child]
    -- only below the root does nothing stand before the last separator
    by_cases top : p = root
    · subst top
      rfl
    · cases chars : p.stem.toList with
      | nil => exact absurd (String.toList_eq_nil_iff.1 chars) (stem_ne top)
      | cons c cs => simp [← chars, stem_eq_text top, bare]

theorem pieces_bare (p : Path) : p.bare.pieces = p.names := by
  by_cases top : p = root
  · subst top
    decide
  · have named : ∀ name ∈ p.names, name ≠ "" := fun name mem => (plain_of_mem_names mem).1
    rw [BarePath.pieces, bare, ← stem_eq_text top, written_stem]
    simpa using named

theorem ofPieces_names (p : Path) : BarePath.ofPieces p.names = p.bare := by
  have joined : String.join (p.names.map ("/" ++ ·)) = p.stem := rfl
  rw [BarePath.ofPieces, joined]
  by_cases top : p = root
  · subst top
    decide
  · rw [if_neg (stem_ne top), stem_eq_text top, bare]

/-- Reading one piece is one step of the walk. A piece with a separator would be pushed, and the
walk passes it over; no text is split into such pieces. -/
theorem push_names {piece : String} (solid : '/' ∉ piece.toList) (p : Path) :
    BarePath.push p.names piece = (p.step piece).map names := by
  by_cases stay : piece = "" ∨ piece = "."
  · have nowhere : p.step piece = some p := by
      rw [step, if_neg (by rcases stay with rfl | rfl <;> decide),
        dif_neg (by rcases stay with rfl | rfl <;> decide)]
    rw [BarePath.push, if_pos stay, nowhere]
    rfl
  rw [BarePath.push, if_neg stay, step]
  by_cases up : piece = ".."
  · rw [if_pos up, if_pos up]
    induction p using Path.induction with
    | root => rfl
    | child p s _ => rw [parent?_child, names_child]; simp
  · have plain : IsPlainSegment piece :=
      ⟨fun empty => stay (.inl empty), solid, fun dot => stay (.inr dot), up⟩
    rw [if_neg up, if_neg up, dif_pos plain, Option.map_some, names_child]

/-- Segments pushed one by one on the names of a path are a walk from it. -/
theorem foldlM_push_names {segments : List String} (solid : ∀ s ∈ segments, '/' ∉ s.toList)
    (p : Path) : segments.foldlM BarePath.push p.names = (p.walk segments).map names := by
  induction segments generalizing p with
  | nil => rfl
  | cons s rest ih =>
    have first := push_names (solid s List.mem_cons_self) p
    have later : ∀ k ∈ rest, '/' ∉ k.toList := fun k mem => solid k (List.mem_cons_of_mem s mem)
    rw [List.foldlM_cons, first, walk, List.foldlM_cons]
    cases p.step s with
    | none => rfl
    | some q => exact ih later q

/-- A segment between slashes holds none. -/
theorem solid_of_mem_written {text s : String} (h : s ∈ written text) : '/' ∉ s.toList := by
  obtain ⟨piece, mem, rfl⟩ := List.mem_map.1 h
  rw [String.toList_ofList]
  exact Text.not_mem_of_mem_splitOn mem

/-- A join of texts is the join of the paths that they stand for, and fails with it. -/
theorem join_bare (p : Path) (text : String) : p.bare.join text = (p.join text).map bare := by
  have start : (if isAbsolute text then [] else p.bare.pieces) =
      (if isAbsolute text then root else p).names := by
    rw [pieces_bare]
    split <;> rfl
  have solid : ∀ s ∈ written text, '/' ∉ s.toList := fun s mem => solid_of_mem_written mem
  rw [BarePath.join, start, foldlM_push_names solid, Option.map_map, join]
  exact congrArg (Option.map · _) (funext ofPieces_names)

/-- The text of a path denotes it. -/
theorem denotes_bare (p : Path) : p.bare.Denotes p where
  text := rfl
  isRoot := isRoot_bare p
  name := name_bare p
  parent := parent?_bare p
  join := join_bare p

/-- Reading a text as a text path is reading it as a path. -/
theorem parse_bare (text : String) : BarePath.parse text = (parse text).map bare := by
  have from_root := join_bare root text
  rw [BarePath.parse, parse]
  split
  · change BarePath.root.join text = _ at from_root
    rw [from_root]
    cases root.join text <;> rfl
  · rfl

/-! ## Its parts -/

theorem isAbsolute_text (p : Path) : isAbsolute p.text = true := by
  induction p using Path.induction with
  | root => decide
  | child p s ih =>
    rw [text_child, String.append_assoc]
    by_cases top : p = root
    · subst top
      have plain : isAbsolute ("/" ++ s.val) = isAbsolute "/" := isAbsolute_append (by decide) s.val
      rw [show root.stem = "" from rfl, String.empty_append, plain]
      decide
    · rw [isAbsolute_append (stem_ne top), stem_eq_text top, ih]

/-- The names of a path lead to it. -/
theorem walk_names (p : Path) : root.walk p.names = some p := by
  induction p using Path.induction with
  | root => rfl
  | child p s ih =>
    rw [names_child, walk_append, ih]
    simp [step_plain, walk]

/-- The text of a path is absolute, so it leads to that path from anywhere. -/
theorem join_text (p : Path) (base : Path) : base.join p.text = some p := by
  rw [join_of_absolute base (isAbsolute_text p)]
  by_cases top : p = root
  · subst top
    decide
  · rw [← stem_eq_text top, written_stem, walk_cons, step_empty, Option.bind_some, walk_names]

/-- The text of a path reads back. -/
theorem parse_text (p : Path) : parse p.text = .ok p := by
  rw [parse, if_pos (isAbsolute_text p), join_text]

/-- The text of a path is in normal form. -/
theorem isNormal_bare (p : Path) : p.bare.IsNormal := by
  by_cases top : p = root
  · exact .inl (congrArg text top)
  · refine .inr ⟨p.names, ?_, fun name mem => plain_of_mem_names mem, ?_⟩
    · intro empty
      obtain ⟨segments⟩ := p
      exact top (congrArg mk (List.map_eq_nil_iff.1 empty))
    · rw [bare, ← stem_eq_text top, stem]

/-- Below the root, the parent and the name give the path back. -/
theorem exists_parent {p : Path} (below : p ≠ root) :
    ∃ q, p.parent? = some q ∧ q.join p.name = some p ∧ IsPlainSegment p.name := by
  obtain ⟨q, s, rfl⟩ := exists_eq_child below
  rw [name_child]
  exact ⟨q, parent?_child q s, join_plain q s, s.property⟩

/-- A plain segment leads below the path, to its own name. -/
theorem exists_child (p : Path) {s : String} (plain : IsPlainSegment s) :
    ∃ c, p.join s = some c ∧ c.parent? = some p ∧ c.name = s :=
  ⟨p.child ⟨s, plain⟩, join_plain p ⟨s, plain⟩, parent?_child p _, name_child p _⟩

end Path

namespace BarePath

/-- The text of every path is obtained by reading it. -/
theorem obtained_bare (p : Path) : p.bare.Obtained := by
  have read : parse p.text = .ok p.bare := by
    rw [Path.parse_bare, Path.parse_text]
    rfl
  exact .parse read

/-- The operations give the texts of paths, and no others. -/
theorem obtained_iff {b : BarePath} : b.Obtained ↔ ∃ p : Path, p.bare = b := by
  constructor
  · intro obtained
    induction obtained with
    | root => exact ⟨Path.root, rfl⟩
    | parse read =>
      rw [Path.parse_bare, map_eq_ok] at read
      obtain ⟨p, _, rfl⟩ := read
      exact ⟨p, rfl⟩
    | join _ leads ih =>
      obtain ⟨p, rfl⟩ := ih
      rw [Path.join_bare, Option.map_eq_some_iff] at leads
      obtain ⟨q, _, rfl⟩ := leads
      exact ⟨q, rfl⟩
    | parent _ above ih =>
      obtain ⟨p, rfl⟩ := ih
      rw [Path.parent?_bare, Option.map_eq_some_iff] at above
      obtain ⟨q, _, rfl⟩ := above
      exact ⟨q, rfl⟩
  · rintro ⟨p, rfl⟩
    exact obtained_bare p

end BarePath

/-- The operations on texts are those on paths, and give the texts of paths and no others. Each is
in normal form and is read as its path again. A path below the root has a parent that leads back
to it by its name, a plain segment; and a plain segment leads from every path to a path below it,
of that name. -/
theorem Path.parts_reassemble :
    (∀ text, BarePath.parse text = (parse text).map bare) ∧
    (∀ b : BarePath, b.Obtained ↔ ∃ p : Path, p.bare = b) ∧
    ∀ p : Path, p.bare.Denotes p ∧ p.bare.IsNormal ∧ parse p.text = .ok p ∧
      (p ≠ root → ∃ q, p.parent? = some q ∧ q.join p.name = some p ∧ IsPlainSegment p.name) ∧
      ∀ s, IsPlainSegment s → ∃ c, p.join s = some c ∧ c.parent? = some p ∧ c.name = s := by
  refine ⟨parse_bare, fun b => BarePath.obtained_iff, ?_⟩
  intro p
  refine ⟨denotes_bare p, isNormal_bare p, parse_text p, ?_, ?_⟩
  · intro below
    exact exists_parent below
  · intro s plain
    exact exists_child p plain

/-- Three dots are a name like any other. -/
theorem Path.parts_reassemble_dots :
    ∃ p q : Path, parse "/a//./b/../..." = .ok p ∧ p.text = "/a/..." ∧
      BarePath.Obtained ⟨"/a/..."⟩ ∧ p.parent? = some q ∧ q.text = "/a" ∧
      q.join p.name = some p ∧ parse p.text = .ok p := by
  let p : Path := (root.child ⟨"a", by decide⟩).child ⟨"...", by decide⟩
  have text : p.text = "/a/..." := by decide
  obtain ⟨_, _, parts⟩ := parts_reassemble
  obtain ⟨_, _, read, back, _⟩ := parts p
  obtain ⟨q, parent, leads, _⟩ := back (by decide)
  have above : q = root.child ⟨"a", by decide⟩ := (Option.some.inj parent).symm
  refine ⟨p, q, by decide +kernel, text, ?_, parent, ?_, leads, read⟩
  · exact (parts_reassemble.2.1 ⟨"/a/..."⟩).2 ⟨p, by rw [bare, text]⟩
  · rw [above]
    decide

end TreeAdapter
