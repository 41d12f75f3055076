/-!
# Similar names

The similarity of two names is the mean of three parts: how much of each name has a match in the
other, and how much of the matches stand in the same order. Two equal characters match when they
are not farther apart than half of the longer name.
-/
namespace ThresholdDaemon.CommandLine

/-- How far apart characters that match may be. -/
def searchRange (a b : List Char) : Nat := max a.length b.length / 2 - 1

/-- Mark the first character, among those at the places from `low` to below `high`, that equals
`c` and has no mark yet. -/
def markFirst (c : Char) (low high : Nat) : (place : Nat) → List (Char × Bool) →
    Option (List (Char × Bool))
  | _, [] => none
  | place, (d, marked) :: rest =>
    if place < high then
      if low ≤ place ∧ c = d ∧ ¬ marked then some ((d, true) :: rest)
      else (markFirst c low high (place + 1) rest).map ((d, marked) :: ·)
    else none

/-- The characters of a name that have a match, and the other name with its matches marked. -/
def matchAll (range : Nat) : (place : Nat) → List Char → List (Char × Bool) →
    List Char × List (Char × Bool)
  | _, [], other => ([], other)
  | place, c :: rest, other =>
    match markFirst c (place - range) (place + range + 1) 0 other with
    | none => matchAll range (place + 1) rest other
    | some other =>
      let (found, other) := matchAll range (place + 1) rest other
      (c :: found, other)

/-- The similarity of two names, from zero to one. -/
def similarity (a b : List Char) : Float :=
  if a.isEmpty && b.isEmpty then 1
  else
    let (found, marked) := matchAll (searchRange a b) 0 a (b.map fun c => (c, false))
    let partners := (marked.filter (·.2)).map (·.1)
    let moved := ((found.zip partners).filter fun (c, d) => c ≠ d).length / 2
    let count := found.length
    if count = 0 then 0
    else
      (count.toFloat / a.length.toFloat + count.toFloat / b.length.toFloat +
        (count - moved).toFloat / count.toFloat) / 3

/-- The similarity above which a name is taken for a misspelling of another. -/
def similarEnough : Float := 0.7

/-- The most similar of some names, the last of equals, if one is similar enough. -/
def mostSimilar? (name : String) (known : List String) : Option String :=
  let best := known.foldl (fun best other =>
    let found := similarity name.toList other.toList
    match best with
    | none => if similarEnough < found then some (found, other) else none
    | some (value, _) =>
      if similarEnough < found ∧ value ≤ found then some (found, other) else best) none
  best.map (·.2)

end ThresholdDaemon.CommandLine
