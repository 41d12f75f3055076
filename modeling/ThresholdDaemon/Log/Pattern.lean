import ThresholdDaemon.Text.Alphanumeric
import ThresholdDaemon.Text.Blank

/-!
# Patterns

The value of a field is asked for by a pattern, a regular expression of which only its soundness
matters here. A pattern is gone through once, from its first character to its last, with the groups
that are open on a stack. Modes that are set inside it decide what is sound: with the classes of
all scripts, no class of words, digits or blanks is at hand and cases cannot be ignored; without
them, nothing may match a part of a character. A pattern never has a closing brace, because the
field ends there, so that whatever an opening brace starts is not closed.
-/
namespace ThresholdDaemon

/-- Why a pattern is not sound. -/
inductive PatternFault where
  /-- It is malformed, or asks for what is not at hand. -/
  | malformed
  /-- It asks for the ends of words of any script. -/
  | wordBoundary
  deriving DecidableEq, Repr

/-- The text of the fault. -/
def PatternFault.message : PatternFault → String
  | malformed => "error building NFA"
  | wordBoundary =>
    "unsupported regex feature for DFAs: cannot build DFAs for regexes with Unicode word " ++
      "boundaries; switch to ASCII word boundaries, or heuristically enable Unicode word " ++
      "boundaries or use a different regex engine"

namespace Pattern

/-- The modes that decide what is sound. -/
structure Modes where
  /-- Cases are ignored. -/
  anyCase : Bool := false
  /-- Classes are those of all scripts. -/
  allScripts : Bool := true
  /-- Blanks and comments are passed over. -/
  spaced : Bool := false
  deriving DecidableEq, Repr

/-- The text behind blanks and comments, which end with their line. -/
def skipBlanks (inComment : Bool) : List Char → List Char
  | [] => []
  | c :: rest =>
    if inComment then skipBlanks (c ≠ '\n') rest
    else if Text.isBlank c then skipBlanks false rest
    else if c = '#' then skipBlanks true rest
    else c :: rest

namespace Modes

/-- The text behind what is passed over. -/
def skip (modes : Modes) (text : List Char) : List Char :=
  if modes.spaced then skipBlanks false text else text

/-- The character behind those that are passed over in front of the second end of a range. A sign
of a comment is passed over on its own here. -/
def peek? (modes : Modes) (text : List Char) : Option Char :=
  if modes.spaced then
    match text.dropWhile Text.isBlank with
    | '#' :: rest => ((rest.dropWhile Text.isBlank).head?).or text.head?
    | c :: _ => some c
    | [] => text.head?
  else text.head?

end Modes

/-- The deepest nesting of a sound pattern. -/
def depthLimit : Nat := 250

/-- How deep a sequence of parts is nested: one part alone is no sequence. -/
def depthOfSequence : (parts : List Nat) → Nat
  | [] => 0
  | [depth] => depth
  | parts => parts.foldl max 0 + 1

/-! ## Single characters -/

/-- What stands for a character or a place. -/
inductive Atom where
  /-- A character, which may be written as the number of a byte. -/
  | literal (c : Char) (byte : Bool)
  /-- A class of words, digits or blanks, or what is not in it. -/
  | shorthand (negated : Bool)
  /-- Any character. -/
  | any
  /-- A place, which may be an end of a word. -/
  | place (word : Bool)
  deriving DecidableEq, Repr

/-- The number of a hexadecimal digit. -/
def digitOf? (c : Char) : Option Nat :=
  if '0' ≤ c ∧ c ≤ '9' then some (c.toNat - 48)
  else if 'a' ≤ c ∧ c ≤ 'f' then some (c.toNat - 87)
  else if 'A' ≤ c ∧ c ≤ 'F' then some (c.toNat - 55)
  else none

/-- The number of some hexadecimal digits. -/
def readDigits (modes : Modes) : (count number : Nat) → List Char → Option (Nat × List Char)
  | 0, number, text => some (number, text)
  | count + 1, number, text =>
    match modes.skip text with
    | [] => none
    | c :: rest => (digitOf? c).bind fun digit => readDigits modes count (16 * number + digit) rest

/-- A character written as a number with some digits. -/
def readNumbered (modes : Modes) (count : Nat) (text : List Char) : Option (Atom × List Char) := do
  let (number, rest) ← readDigits modes count 0 text
  if h : number.isValidChar then
    some (.literal (Char.ofNatAux number h) (count = 2), modes.skip rest)
  else none

/-- The letters that stand for a control character behind a backslash. -/
def controls : List (Char × Char) :=
  [('a', '\x07'), ('f', '\x0c'), ('t', '\t'), ('n', '\n'), ('r', '\r'), ('v', '\x0b')]

/-- What stands behind a backslash. -/
def readEscape (modes : Modes) : List Char → Option (Atom × List Char)
  | [] => none
  | c :: rest =>
    match controls.lookup c with
    | some control => some (.literal control false, rest)
    | none =>
      if c = 'x' then readNumbered modes 2 rest
      else if c = 'u' then readNumbered modes 4 rest
      else if c = 'U' then readNumbered modes 8 rest
      else if c = 'd' ∨ c = 's' ∨ c = 'w' then some (.shorthand false, rest)
      else if c = 'D' ∨ c = 'S' ∨ c = 'W' then some (.shorthand true, rest)
      else if c = 'A' ∨ c = 'z' then some (.place false, rest)
      else if c = 'b' ∨ c = 'B' ∨ c = '<' ∨ c = '>' then some (.place true, rest)
      else if c.toNat < 0x80 ∧ ¬ c.isAlphanum then some (.literal c false, rest)
      else none

/-- An atom is sound outside brackets. -/
def Atom.isSound (modes : Modes) : Atom → Bool
  | .literal c byte =>
    if modes.allScripts then !modes.anyCase else !(byte && 0x80 ≤ c.toNat)
  | .shorthand negated => !modes.allScripts && !negated
  | .any => modes.allScripts
  | .place _ => true

/-! ## Classes in brackets -/

/-- The names of classes in double brackets. -/
def className : List String :=
  ["alnum", "alpha", "ascii", "blank", "cntrl", "digit", "graph", "lower", "print", "punct",
    "space", "upper", "word", "xdigit"]

/-- A class that is named between colons in brackets, behind the bracket; the answer is whether it
is negated. -/
def readNamed (text : List Char) : Option (Bool × List Char) :=
  match text with
  | ':' :: text =>
    let (negated, text) := match text with
      | '^' :: rest => (true, rest)
      | rest => (false, rest)
    match text.dropWhile (· ≠ ':') with
    | ':' :: ']' :: rest =>
      if String.ofList (text.takeWhile (· ≠ ':')) ∈ className then some (negated, rest) else none
    | _ => none
  | _ => none

/-- A class is sound whether it is negated or not. -/
def isSoundClass (modes : Modes) (negated : Bool) : Bool := modes.allScripts || !negated

/-- A character is sound in brackets. -/
def isSoundMember (modes : Modes) (c : Char) : Bool :=
  if modes.allScripts then !modes.anyCase else c.toNat < 0x80

/-- An atom is sound in brackets. -/
def Atom.isSoundMember (modes : Modes) : Atom → Bool
  | .literal c _ => Pattern.isSoundMember modes c
  | .shorthand negated => !modes.allScripts && !negated
  | .any | .place _ => false

/-- An open bracket. -/
structure Bracket where
  /-- It stands for what is not in it. -/
  negated : Bool
  /-- How deep what stands in front of the last operator is nested. -/
  left : Option Nat := none
  /-- How deep the members behind the last operator are nested, the last one first. -/
  members : List Nat := []
  deriving DecidableEq, Repr

namespace Bracket

/-- With one more member. -/
def add (bracket : Bracket) (depth : Nat) : Bracket :=
  { bracket with members := depth :: bracket.members }

/-- How deep what stands in the bracket is nested. -/
def depth (bracket : Bracket) : Nat :=
  let right := depthOfSequence bracket.members
  match bracket.left with
  | none => right
  | some left => max left right + 1

/-- Behind an operator. -/
def operate (bracket : Bracket) : Bracket :=
  { bracket with left := some bracket.depth, members := [] }

end Bracket

/-- Hyphens in front of the members of a bracket are members. -/
def readHyphens (modes : Modes) : (bracket : Bracket) → List Char → Option (Bracket × List Char)
  | bracket, [] => some (bracket, [])
  | bracket, c :: rest =>
    if modes.spaced ∧ Text.isBlank c then readHyphens modes bracket rest
    else if c = '-' then
      if isSoundMember modes '-' then readHyphens modes (bracket.add 0) rest else none
    else some (bracket, c :: rest)

/-- The start of a bracket, behind it: its first members may be hyphens, or a closing bracket. -/
def readOpening (modes : Modes) (text : List Char) : Option (Bracket × List Char) := do
  let (negated, text) := match modes.skip text with
    | '^' :: rest => (true, modes.skip rest)
    | rest => (false, rest)
  let (bracket, text) ← readHyphens modes { negated } text
  match modes.skip text with
  | [] => none
  | ']' :: rest =>
    if bracket.members.isEmpty then
      if isSoundMember modes ']' then some (bracket.add 0, rest) else none
    else some (bracket, ']' :: rest)
  | rest => some (bracket, rest)

/-- A single member of a bracket. -/
def readMember (modes : Modes) : List Char → Option (Atom × List Char)
  | [] => none
  | c :: rest => if c = '\\' then readEscape modes rest else some (.literal c false, rest)

/-- A member of a bracket, which may be a range. -/
def readRange (modes : Modes) (text : List Char) : Option (Unit × List Char) := do
  let (first, text) ← readMember modes text
  if !first.isSoundMember modes then none
  else
    match modes.skip text with
    | [] => none
    | '-' :: rest =>
      let next := modes.peek? rest
      if next = some ']' ∨ next = some '-' then some ((), '-' :: rest)
      else do
        let (last, rest) ← readMember modes (modes.skip rest)
        match first, last with
        | .literal low _, .literal high _ =>
          if last.isSoundMember modes ∧ low ≤ high then some ((), rest) else none
        | _, _ => none
    | rest => some ((), rest)

/-- The two characters of an operator between classes. -/
def isOperator (first second : Char) : Bool :=
  first = second && (first = '&' || first = '-' || first = '~')

/-- The rest of a class, with the brackets that are open, the innermost first, and one step of
`fuel` for each character. The answer is how deep the class is nested. -/
def readBrackets (modes : Modes) :
    (fuel : Nat) → Bracket → List Bracket → List Char → Option (Nat × List Char)
  | 0, _, _, _ => none
  | fuel + 1, bracket, outer, text =>
    match modes.skip text with
    | [] => none
    | '[' :: rest =>
      match readNamed rest with
      | some (negated, rest) =>
        if isSoundClass modes negated && !(modes.allScripts && modes.anyCase) then
          readBrackets modes fuel (bracket.add 0) outer rest
        else none
      | none => do
        let (inner, rest) ← readOpening modes rest
        readBrackets modes fuel inner (bracket :: outer) rest
    | ']' :: rest =>
      if !isSoundClass modes bracket.negated then none
      else
        match outer with
        | [] => some (bracket.depth + 1, rest)
        | next :: outer => readBrackets modes fuel (next.add (bracket.depth + 1)) outer rest
    | c :: rest =>
      if rest.head?.any (isOperator c) then
        readBrackets modes fuel bracket.operate outer (rest.drop 1)
      else do
        let ((), rest) ← readRange modes (c :: rest)
        readBrackets modes fuel (bracket.add 0) outer rest

/-- A class, behind its first bracket. -/
def readClass (modes : Modes) (text : List Char) : Option (Nat × List Char) := do
  let (bracket, rest) ← readOpening modes text
  readBrackets modes (rest.length + 1) bracket [] rest

/-! ## Groups -/

/-- What can be set at the start of a group. -/
inductive Setting where
  /-- What follows is unset. -/
  | negation
  /-- The mode of a letter. -/
  | mode (letter : Char)
  deriving DecidableEq, Repr

/-- The letters of modes. -/
def modeLetters : List Char := ['i', 'm', 's', 'U', 'u', 'R', 'x']

/-- Settings up to the character that ends them, none of them twice; the answer has that
character. -/
def readSettings : (before : List Setting) → List Char → Option ((List Setting × Char) × List Char)
  | _, [] => none
  | before, c :: rest =>
    if c = ':' ∨ c = ')' then
      if before.getLast? = some .negation then none else some ((before, c), rest)
    else
      let setting : Setting := if c = '-' then .negation else .mode c
      if (c = '-' ∨ c ∈ modeLetters) ∧ setting ∉ before then
        readSettings (before ++ [setting]) rest
      else none

/-- Set modes. -/
def Modes.apply (modes : Modes) (settings : List Setting) : Modes :=
  (settings.foldl (fun (modes, value) setting =>
    match setting with
    | .negation => (modes, false)
    | .mode 'i' => ({ modes with anyCase := value }, value)
    | .mode 'u' => ({ modes with allScripts := value }, value)
    | .mode 'x' => ({ modes with spaced := value }, value)
    | .mode _ => (modes, value)) ((modes : Modes), true)).1

/-- A character can stand in the name of a group. -/
def isNameChar (first : Bool) (c : Char) : Bool :=
  if first then c = '_' || Text.isAlphabetic c
  else c = '_' || c = '.' || c = '[' || c = ']' || Text.isAlphanumeric c

/-- The name of a group, behind the angle in front of it. -/
def readName (text : List Char) : Option (List Char × List Char) :=
  match text.takeWhile (· ≠ '>'), text.dropWhile (· ≠ '>') with
  | first :: more, '>' :: rest =>
    if isNameChar true first && more.all (isNameChar false) then some (first :: more, rest)
    else none
  | _, _ => none

/-- How a group starts. -/
inductive Opening where
  /-- It has a name, or none. -/
  | named (name : Option (List Char))
  /-- It has modes of its own. -/
  | modal (settings : List Setting)
  /-- It is none: the modes hold from here on. -/
  | modes (settings : List Setting)
  deriving DecidableEq, Repr

/-- The start of a group, behind its parenthesis. A look around is not at hand. -/
def readGroup (text : List Char) : Option (Opening × List Char) :=
  let named (rest : List Char) : Option (Opening × List Char) := do
    let (name, rest) ← readName rest
    some (.named (some name), rest)
  match text with
  | '?' :: '=' :: _ | '?' :: '!' :: _ | '?' :: '<' :: '=' :: _ | '?' :: '<' :: '!' :: _ => none
  | '?' :: 'P' :: '<' :: rest | '?' :: '<' :: rest => named rest
  | '?' :: rest => do
    let ((settings, last), rest) ← readSettings [] rest
    if last = ':' then some (.modal settings, rest)
    else if settings.isEmpty then none
    else some (.modes settings, rest)
  | rest => some (.named none, rest)

/-! ## Patterns -/

/-- A part of a sequence. -/
structure Item where
  /-- How deep it is nested. -/
  depth : Nat := 0
  /-- It can be repeated. -/
  repeatable : Bool := true
  deriving DecidableEq, Repr

/-- An open group, or the pattern as a whole. -/
structure Group where
  /-- The modes behind it. -/
  after : Modes := {}
  /-- How deep its alternatives so far are nested, the last one first. -/
  alternatives : List Nat := []
  /-- The parts of the alternative that is open, the last one first. -/
  items : List Item := []
  deriving DecidableEq, Repr

namespace Group

/-- With one more part. -/
def add (group : Group) (item : Item) : Group := { group with items := item :: group.items }

/-- With another alternative open. -/
def alternate (group : Group) : Group :=
  { group with
    alternatives := depthOfSequence (group.items.map (·.depth)) :: group.alternatives
    items := [] }

/-- How deep what stands in the group is nested. -/
def depth (group : Group) : Nat := depthOfSequence group.alternate.alternatives

/-- With the last part repeated. -/
def repeatLast? (group : Group) : Option Group :=
  match group.items with
  | [] => none
  | item :: items =>
    if item.repeatable then some { group with items := { depth := item.depth + 1 } :: items }
    else none

end Group

/-- How far a pattern has been gone through. -/
structure State where
  /-- The modes. -/
  modes : Modes := {}
  /-- The innermost open group. -/
  group : Group := {}
  /-- The groups around it. -/
  outer : List Group := []
  /-- The names of groups so far. -/
  names : List (List Char) := []
  /-- It asks for an end of a word of any script. -/
  boundary : Bool := false
  deriving DecidableEq, Repr

namespace State

/-- With one more part. -/
def add (state : State) (item : Item) : State := { state with group := state.group.add item }

/-- With an atom, which has to be sound. -/
def addAtom (state : State) (atom : Atom) : Option State :=
  if atom.isSound state.modes then
    some { state.add {} with
      boundary := state.boundary || (state.modes.allScripts && atom = .place true) }
  else none

/-- With a group open. -/
def enter (state : State) (modes : Modes) : State :=
  { state with modes, group := { after := state.modes }, outer := state.group :: state.outer }

/-- At the start of a group. -/
def open? (state : State) : Opening → Option State
  | .named none => some (state.enter state.modes)
  | .named (some name) =>
    if name ∈ state.names then none
    else some { state.enter state.modes with names := name :: state.names }
  | .modal settings => some (state.enter (state.modes.apply settings))
  | .modes settings =>
    some { state.add { repeatable := false } with modes := state.modes.apply settings }

/-- With the innermost group closed. -/
def close? (state : State) : Option State :=
  match state.outer with
  | [] => none
  | next :: outer =>
    some { state with
      modes := state.group.after
      group := next.add { depth := state.group.depth + 1 }
      outer }

/-- Take the part that a text starts with. -/
def take (state : State) : List Char → Option (State × List Char)
  | [] => none
  | c :: rest =>
    if c = '(' then do
      let (opening, rest) ← readGroup (state.modes.skip rest)
      return (← state.open? opening, rest)
    else if c = ')' then return (← state.close?, rest)
    else if c = '|' then some ({ state with group := state.group.alternate }, rest)
    else if c = '[' then do
      let (depth, rest) ← readClass state.modes rest
      return (state.add { depth }, rest)
    else if c = '?' ∨ c = '*' ∨ c = '+' then do
      let group ← state.group.repeatLast?
      return ({ state with group }, if rest.head? = some '?' then rest.drop 1 else rest)
    else if c = '\x7b' then none
    else if c = '\\' then do
      let (atom, rest) ← readEscape state.modes rest
      return (← state.addAtom atom, rest)
    else
      let atom : Atom :=
        if c = '.' then .any else if c = '^' ∨ c = '$' then .place false else .literal c false
      return (← state.addAtom atom, rest)

/-- Take all parts of a text, with one step of `fuel` for each character. -/
def takeAll : (fuel : Nat) → State → List Char → Option State
  | 0, _, _ => none
  | fuel + 1, state, text =>
    match state.modes.skip text with
    | [] => some state
    | rest => do
      let (state, rest) ← state.take rest
      takeAll fuel state rest

end State

/-- A pattern is sound: everything in it is at hand, all groups are closed, and it is not nested
too deep. -/
def check (text : List Char) : Except PatternFault Unit :=
  match State.takeAll (text.length + 1) {} text with
  | none => .error .malformed
  | some state =>
    if ¬ state.outer.isEmpty ∨ depthLimit < state.group.depth then .error .malformed
    else if state.boundary then .error .wordBoundary
    else .ok ()

end Pattern

end ThresholdDaemon
