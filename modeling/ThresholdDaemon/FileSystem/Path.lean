/-!
# Paths

A path is a list of segments between slashes. Empty segments and the segment `.` say nothing,
except for a `.` in front of a relative path. The parent of a path is the text in front of its
last segment, without the segments at its end that say nothing.
-/
namespace ThresholdDaemon.FileSystem

variable {α : Type} [DecidableEq α]

/-- The parts of a text between separators. -/
def segments (separator : α) : List α → List (List α)
  | [] => [[]]
  | c :: rest =>
    if c = separator then [] :: segments separator rest
    else
      match segments separator rest with
      | [] => [[c]]
      | first :: more => (c :: first) :: more

/-- Segments with separators between them. -/
def joined (separator : α) : List (List α) → List α
  | [] => []
  | [one] => one
  | one :: more => one ++ separator :: joined separator more

/-- The characters of a path that have a meaning. -/
structure Marks (α : Type) where
  /-- What separates segments. -/
  slash : α
  /-- What the segments for a directory itself and for its parent are made of. -/
  dot : α

/-- The marks of a text. -/
def textMarks : Marks Char := ⟨'/', '.'⟩

/-- The marks of a string of bytes. -/
def byteMarks : Marks UInt8 := ⟨0x2F, 0x2E⟩

namespace Marks

/-- A path starts at the root. -/
def isAbsolute (marks : Marks α) (path : List α) : Bool := path.head? = some marks.slash

/-- Segments in reverse without those in front that say nothing. -/
def significant (marks : Marks α) (absolute : Bool) : List (List α) → List (List α)
  | [] => []
  | [last] => if last = [] ∨ (last = [marks.dot] ∧ absolute) then [] else [last]
  | segment :: rest =>
    if segment = [] ∨ segment = [marks.dot] then significant marks absolute rest
    else segment :: rest

/-- The segments of a path in reverse, behind the root. -/
def reversed (marks : Marks α) (path : List α) : List (List α) :=
  let body := if marks.isAbsolute path then path.drop 1 else path
  marks.significant (marks.isAbsolute path) (segments marks.slash body).reverse

/-- The parent of a path; none of the root and of the empty path. -/
def parent? (marks : Marks α) (path : List α) : Option (List α) :=
  match marks.reversed path with
  | [] => none
  | _ :: rest =>
    let absolute := marks.isAbsolute path
    let front := joined marks.slash (marks.significant absolute rest).reverse
    some (if absolute then marks.slash :: front else front)

/-- The name at the end of a path; none if it ends in a segment that is no name. -/
def fileName? (marks : Marks α) (path : List α) : Option (List α) :=
  match marks.reversed path with
  | [] => none
  | last :: _ =>
    if last = [marks.dot] ∨ last = [marks.dot, marks.dot] then none else some last

end Marks

end ThresholdDaemon.FileSystem
