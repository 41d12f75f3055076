import ThresholdDaemon.Socket.Path

/-!
# The texts that name a socket

A text names the path behind the scheme of Unix sockets, or the path that it is if no separator is
in it; a text with another scheme is refused with the text in front of its first separator, and one
without a path is refused as it is. The written form of a path names that path again, whatever
schemes and separators the path has of its own.
-/
namespace ThresholdDaemon.SocketPath

/-- A text starts with the scheme of Unix sockets. -/
def HasScheme (text : String) : Prop := ∃ path, text = "unix://" ++ path

/-- A separator of a text stands behind a front of it. -/
def SeparatesAt (text front : String) : Prop := ∃ rest, text = front ++ "://" ++ rest

/-- The first separator of a text stands behind a front of it. -/
structure FirstSeparatesAt (text front : String) : Prop where
  /-- A separator stands there. -/
  separates : SeparatesAt text front
  /-- None stands earlier. -/
  first : ∀ other, SeparatesAt text other → front.length ≤ other.length

/-- What stands behind a beginning is the rest of the text. -/
theorem behind?_eq_some_iff {beginning text rest : List Char} :
    behind? beginning text = some rest ↔ text = beginning ++ rest := by
  fun_induction behind? beginning text with
  | case1 text => rw [Option.some.injEq, List.nil_append]
  | case2 c beginning => exact iff_of_false nofun nofun
  | case3 c beginning text ih => rw [ih, List.cons_append, List.cons.injEq, and_iff_right rfl]
  | case4 c beginning d text other =>
    refine iff_of_false nofun ?_
    intro same
    exact other (List.cons.inj same).1.symm

/-- A beginning is found exactly if the text has it. -/
theorem isSome_behind?_iff {beginning text : List Char} :
    (behind? beginning text).isSome ↔ ∃ rest, text = beginning ++ rest := by
  rw [Option.isSome_iff_exists]
  exact exists_congr fun rest => behind?_eq_some_iff

/-- A separator stands behind the scheme that is found. -/
theorem separator_of_foreignScheme? {text found : List Char}
    (foreign : foreignScheme? text = some found) : ∃ rest, text = found ++ separator ++ rest := by
  fun_induction foreignScheme? text generalizing found with
  | case1 text here =>
    obtain rfl := Option.some.inj foreign
    exact isSome_behind?_iff.mp here
  | case2 => exact nomatch foreign
  | case3 c text missing ih =>
    obtain ⟨behind, later, rfl⟩ := Option.map_eq_some_iff.mp foreign
    obtain ⟨rest, rfl⟩ := ih later
    exact ⟨rest, rfl⟩

/-- Where a separator stands, a scheme is found that is no longer than what stands in front. -/
theorem foreignScheme?_of_separator {text front rest : List Char}
    (split : text = front ++ separator ++ rest) :
    ∃ found, foreignScheme? text = some found ∧ found.length ≤ front.length := by
  fun_induction foreignScheme? text generalizing front with
  | case1 text here => exact ⟨[], rfl, Nat.zero_le _⟩
  | case2 elsewhere =>
    cases front with
    | nil => exact absurd (isSome_behind?_iff.mpr ⟨rest, split⟩) elsewhere
    | cons d front => exact nomatch split
  | case3 c text elsewhere ih =>
    cases front with
    | nil => exact absurd (isSome_behind?_iff.mpr ⟨rest, split⟩) elsewhere
    | cons d front =>
      obtain ⟨rfl, later⟩ := List.cons.inj split
      obtain ⟨found, foreign, short⟩ := ih later
      exact ⟨c :: found, Option.map_eq_some_iff.mpr ⟨found, foreign, rfl⟩, Nat.succ_le_succ short⟩

/-- The scheme that is found is what stands in front of the first separator. -/
theorem foreignScheme?_eq_some_iff {text found : List Char} :
    foreignScheme? text = some found ↔
      (∃ rest, text = found ++ separator ++ rest) ∧
        ∀ front rest, text = front ++ separator ++ rest → found.length ≤ front.length := by
  constructor
  · intro foreign
    refine ⟨separator_of_foreignScheme? foreign, fun front rest split => ?_⟩
    obtain ⟨least, same, short⟩ := foreignScheme?_of_separator split
    obtain rfl := Option.some.inj (foreign.symm.trans same)
    exact short
  · rintro ⟨⟨rest, split⟩, first⟩
    obtain ⟨least, foreign, short⟩ := foreignScheme?_of_separator split
    obtain ⟨behind, elsewhere⟩ := separator_of_foreignScheme? foreign
    -- Two fronts of one text that are as long as each other are the same.
    have length : found.length = least.length :=
      Nat.le_antisymm (first least behind elsewhere) short
    have same := split.symm.trans elsewhere
    rw [List.append_assoc, List.append_assoc] at same
    obtain rfl := List.append_inj_left same length
    exact foreign

/-- No scheme is found exactly if there is no separator. -/
theorem foreignScheme?_eq_none_iff {text : List Char} :
    foreignScheme? text = none ↔ ∀ front rest, text ≠ front ++ separator ++ rest := by
  constructor
  · intro none front rest split
    obtain ⟨found, foreign, -⟩ := foreignScheme?_of_separator split
    exact nomatch none.symm.trans foreign
  · intro plain
    refine Option.eq_none_iff_forall_ne_some.mpr fun found foreign => ?_
    obtain ⟨rest, split⟩ := separator_of_foreignScheme? foreign
    exact plain found rest split

/-- A text starts with another one exactly if its characters start with those. -/
theorem exists_rest_iff {text front : String} :
    (∃ rest, text = front ++ rest) ↔ ∃ rest, text.toList = front.toList ++ rest := by
  constructor
  · rintro ⟨rest, rfl⟩
    exact ⟨rest.toList, String.toList_append⟩
  · rintro ⟨rest, split⟩
    refine ⟨String.ofList rest, String.toList_inj.mp ?_⟩
    rw [split, String.toList_append, String.toList_ofList]

/-- Where a separator stands, in characters. -/
theorem separatesAt_iff {text front : String} :
    SeparatesAt text front ↔ ∃ rest, text.toList = front.toList ++ separator ++ rest := by
  have chars : (front ++ "://").toList = front.toList ++ separator := String.toList_append
  rw [← chars]
  exact exists_rest_iff

/-- A text without the scheme of Unix sockets, in characters. -/
theorem not_hasScheme_iff {text : String} :
    ¬ HasScheme text ↔ behind? scheme text.toList = none := by
  rw [← Option.not_isSome_iff_eq_none, isSome_behind?_iff]
  exact not_congr exists_rest_iff

/-- Where the first separator stands, in characters. -/
theorem firstSeparatesAt_iff {text front : String} :
    FirstSeparatesAt text front ↔ foreignScheme? text.toList = some front.toList := by
  rw [foreignScheme?_eq_some_iff]
  constructor
  · rintro ⟨separates, first⟩
    refine ⟨separatesAt_iff.mp separates, fun other rest split => ?_⟩
    have here : SeparatesAt text (String.ofList other) :=
      separatesAt_iff.mpr ⟨rest, by rwa [String.toList_ofList]⟩
    have shorter := first _ here
    rwa [String.length_ofList] at shorter
  · rintro ⟨split, first⟩
    refine ⟨separatesAt_iff.mpr split, fun other separates => ?_⟩
    obtain ⟨rest, elsewhere⟩ := separatesAt_iff.mp separates
    exact first _ rest elsewhere

/-- A text without a separator, in characters. -/
theorem forall_not_separatesAt_iff {text : String} :
    (∀ front, ¬ SeparatesAt text front) ↔ foreignScheme? text.toList = none := by
  rw [foreignScheme?_eq_none_iff]
  constructor
  · intro plain front rest split
    refine plain (String.ofList front) (separatesAt_iff.mpr ⟨rest, ?_⟩)
    rwa [String.toList_ofList]
  · intro plain front separates
    obtain ⟨rest, split⟩ := separatesAt_iff.mp separates
    exact plain _ rest split

/-- Every text has the scheme of Unix sockets, or another one, or none. -/
theorem scheme_cases (text : String) :
    HasScheme text ∨ (¬ HasScheme text ∧ ∃ front, FirstSeparatesAt text front) ∨
      (¬ HasScheme text ∧ ∀ front, ¬ SeparatesAt text front) := by
  by_cases unix : HasScheme text
  · exact .inl unix
  · refine .inr ?_
    cases foreign : foreignScheme? text.toList with
    | none => exact .inr ⟨unix, forall_not_separatesAt_iff.mpr foreign⟩
    | some found =>
      refine .inl ⟨unix, String.ofList found, firstSeparatesAt_iff.mpr ?_⟩
      rw [foreign, String.toList_ofList]

/-- A path that is found is refused if it is empty. -/
theorem parse_of_pathChars {text path : String} (found : pathChars text.toList = .ok path.toList) :
    parse text = if path = "" then .error (.missingPath text) else .ok ⟨path⟩ := by
  obtain ⟨chars, rfl⟩ : ∃ chars, path = String.ofList chars := ⟨_, String.ofList_toList.symm⟩
  rw [String.toList_ofList] at found
  unfold parse
  rw [found]
  cases chars with
  | nil => rfl
  | cons c rest =>
    have given : String.ofList (c :: rest) ≠ "" := fun empty =>
      nomatch String.ofList_eq_empty_iff.mp empty
    rw [if_neg given]
    rfl

/-- Behind the scheme of Unix sockets stands the path. -/
theorem parse_of_scheme (path : String) :
    parse ("unix://" ++ path) =
      if path = "" then .error (.missingPath ("unix://" ++ path)) else .ok ⟨path⟩ := by
  apply parse_of_pathChars
  have behind : behind? scheme ("unix://" ++ path).toList = some path.toList :=
    behind?_eq_some_iff.mpr String.toList_append
  rw [pathChars, behind]

/-- A text with another scheme is refused with the text in front of its first separator. -/
theorem parse_of_foreign {text front : String} (other : ¬ HasScheme text)
    (first : FirstSeparatesAt text front) : parse text = .error (.unsupportedScheme front) := by
  have chars : pathChars text.toList = .error (.unsupportedScheme front) := by
    rw [pathChars, not_hasScheme_iff.mp other, firstSeparatesAt_iff.mp first]
    exact congrArg (Except.error ∘ SocketPathError.unsupportedScheme) String.ofList_toList
  unfold parse
  rw [chars]
  rfl

example : parse "://a" = .error (.unsupportedScheme "") := rfl

/-- A text without a scheme is a path. -/
theorem parse_of_plain {text : String} (other : ¬ HasScheme text)
    (plain : ∀ front, ¬ SeparatesAt text front) :
    parse text = if text = "" then .error (.missingPath text) else .ok ⟨text⟩ := by
  apply parse_of_pathChars
  rw [pathChars, not_hasScheme_iff.mp other, forall_not_separatesAt_iff.mp plain]

/-- What each text is read as. -/
inductive Reads : String → Except SocketPathError SocketPath → Prop
  /-- The path behind the scheme of Unix sockets. -/
  | url {path : String} (given : path ≠ "") : Reads ("unix://" ++ path) (.ok ⟨path⟩)
  /-- A path alone. -/
  | bare {path : String} (given : path ≠ "") (other : ¬ HasScheme path)
      (plain : ∀ front, ¬ SeparatesAt path front) : Reads path (.ok ⟨path⟩)
  /-- Another scheme. -/
  | foreign {text front : String} (other : ¬ HasScheme text)
      (first : FirstSeparatesAt text front) : Reads text (.error (.unsupportedScheme front))
  /-- The scheme of Unix sockets alone. -/
  | emptyUrl : Reads "unix://" (.error (.missingPath "unix://"))
  /-- Nothing. -/
  | empty : Reads "" (.error (.missingPath ""))

/-- Every text is read as what it is parsed to. -/
theorem reads_parse (text : String) : Reads text (parse text) := by
  obtain ⟨path, rfl⟩ | ⟨other, front, first⟩ | ⟨other, plain⟩ := scheme_cases text
  · rw [parse_of_scheme]
    by_cases empty : path = ""
    · rw [if_pos empty, empty]
      exact .emptyUrl
    · rw [if_neg empty]
      exact .url empty
  · rw [parse_of_foreign other first]
    exact .foreign other first
  · rw [parse_of_plain other plain]
    by_cases empty : text = ""
    · rw [if_pos empty, empty]
      exact .empty
    · rw [if_neg empty]
      exact .bare empty other plain

/-- And as nothing else, so that no text is two of these. -/
theorem parse_eq_iff {text : String} {outcome : Except SocketPathError SocketPath} :
    parse text = outcome ↔ Reads text outcome := by
  constructor
  · rintro rfl
    exact reads_parse text
  · intro reads
    cases reads with
    | url given => rw [parse_of_scheme, if_neg given]
    | bare given other plain => rw [parse_of_plain other plain, if_neg given]
    | foreign other first => exact parse_of_foreign other first
    | emptyUrl => exact parse_of_scheme ""
    | empty => rfl

/-- A path is read from its written form. -/
theorem reads_render {path : String} (given : path ≠ "") : Reads (render ⟨path⟩) (.ok ⟨path⟩) := by
  have written : render ⟨path⟩ = "unix://" ++ path :=
    congrArg (· ++ path) (String.ofList_toList : String.ofList scheme = "unix://")
  rw [written]
  exact .url given

/-- A text is read as a path exactly if the path is not empty and stands behind the scheme of Unix
sockets, or is the text and has no separator. A text that does not start with that scheme is refused
with what stands in front of its first separator, and the two texts without a path are refused as
they are. So the written form of every path that is not empty is read as that path. -/
theorem parse_language :
    (∀ text path : String, parse text = .ok ⟨path⟩ ↔
      (text = "unix://" ++ path ∧ path ≠ "") ∨
        (text = path ∧ path ≠ "" ∧ ¬ HasScheme text ∧ ∀ front, ¬ SeparatesAt text front)) ∧
    (∀ text front : String, parse text = .error (.unsupportedScheme front) ↔
      ¬ HasScheme text ∧ FirstSeparatesAt text front) ∧
    (∀ text shown : String, parse text = .error (.missingPath shown) ↔
      shown = text ∧ (text = "" ∨ text = "unix://")) ∧
    ∀ path : String, path ≠ "" → parse (render ⟨path⟩) = .ok ⟨path⟩ := by
  simp only [parse_eq_iff]
  refine ⟨fun text path => ⟨?_, ?_⟩, fun text front => ⟨?_, ?_⟩, fun text shown => ⟨?_, ?_⟩, ?_⟩
  · intro reads
    cases reads with
    | url given => exact .inl ⟨rfl, given⟩
    | bare given other plain => exact .inr ⟨rfl, given, other, plain⟩
  · rintro (⟨rfl, given⟩ | ⟨rfl, given, other, plain⟩)
    · exact .url given
    · exact .bare given other plain
  · intro reads
    cases reads with
    | foreign other first => exact ⟨other, first⟩
  · rintro ⟨other, first⟩
    exact .foreign other first
  · intro reads
    cases reads with
    | emptyUrl => exact ⟨rfl, .inr rfl⟩
    | empty => exact ⟨rfl, .inl rfl⟩
  · rintro ⟨rfl, rfl | rfl⟩
    · exact .empty
    · exact .emptyUrl
  · intro path given
    exact reads_render given

/-- A path that starts with a scheme and has another separator is read from its written form. -/
theorem parse_language_nested :
    "unix://tcp://a" ≠ "" ∧ parse (render ⟨"unix://tcp://a"⟩) = .ok ⟨"unix://tcp://a"⟩ := by
  have given : "unix://tcp://a" ≠ "" := by decide
  obtain ⟨-, -, -, back⟩ := parse_language
  exact ⟨given, back _ given⟩

end ThresholdDaemon.SocketPath
