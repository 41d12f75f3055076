import ThresholdDaemon.Text.Quoted

/-!
# Slices of texts

A slice is the part of a text between two counts of bytes. There is no slice that would take a
character apart; what stands in its way is a `Split`.
-/
namespace ThresholdDaemon.Text

/-- How many bytes a text takes. -/
def byteLength : List Char → Nat
  | [] => 0
  | c :: rest => c.utf8Size + byteLength rest

/-- The characters of a text from a count of bytes on. -/
def dropBytes : Nat → List Char → List Char
  | _, [] => []
  | count, c :: rest => if count = 0 then c :: rest else dropBytes (count - c.utf8Size) rest

/-- The characters of a text up to a count of bytes. -/
def takeBytes : Nat → List Char → List Char
  | _, [] => []
  | count, c :: rest => if count = 0 then [] else c :: takeBytes (count - c.utf8Size) rest

/-- An end of a slice. -/
inductive SliceEnd where
  /-- Where the slice starts. -/
  | start
  /-- Where the slice ends. -/
  | finish
  deriving DecidableEq, Repr

/-- A slice that would take a character apart. -/
structure Split where
  /-- The end of the slice that lies inside the character. -/
  side : SliceEnd
  /-- Where this end lies. -/
  place : Nat
  /-- The character. -/
  char : Char
  /-- Where the character starts. -/
  first : Nat
  deriving DecidableEq, Repr

/-- The text of a split. -/
def Split.message (split : Split) : String :=
  (match split.side with | .start => "start" | .finish => "end") ++ " byte index " ++
    toString split.place ++ " is not a char boundary; it is inside " ++
    quoteAlone split.char ++ " (bytes " ++ toString split.first ++ ".." ++
    toString (split.first + split.char.utf8Size) ++ " of string)"

/-- The character of a text that has a place inside it, with where it starts; `first` is where the
text starts. -/
def around? (place : Nat) : (first : Nat) → List Char → Option (Char × Nat)
  | _, [] => none
  | first, c :: rest =>
    if place ≤ first then none
    else if place < first + c.utf8Size then some (c, first)
    else around? place (first + c.utf8Size) rest

/-- The part of a text from one count of bytes up to another. -/
def slice (text : List Char) (first last : Nat) : Except Split (List Char) :=
  match around? first 0 text, around? last 0 text with
  | some (char, place), _ => .error ⟨.start, first, char, place⟩
  | none, some (char, place) => .error ⟨.finish, last, char, place⟩
  | none, none => .ok (takeBytes (last - first) (dropBytes first text))

end ThresholdDaemon.Text
