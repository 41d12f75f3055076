import ThresholdDaemon.FileSystem.Path

/-!
# Parents of paths

A path is the join of its segments, and the parent of a path is a front of its text. What the
segments of the path say is what those of the parent say, and then the last name, with segments for
the directory itself in front of and behind that name.
-/
namespace ThresholdDaemon.FileSystem

variable {α : Type} [DecidableEq α] {separator : α}

/-- There is a segment in front of the first separator. -/
theorem segments_ne_nil (separator : α) (text : List α) : segments separator text ≠ [] := by
  induction text with
  | nil => exact List.cons_ne_nil _ _
  | cons c rest ih =>
    unfold segments
    by_cases ends : c = separator
    · rw [if_pos ends]
      exact List.cons_ne_nil _ _
    · rw [if_neg ends]
      split <;> exact List.cons_ne_nil _ _

/-- A separator starts a new segment. -/
theorem segments_separator (separator : α) (rest : List α) :
    segments separator (separator :: rest) = [] :: segments separator rest := if_pos rfl

/-- Any other character belongs to the first segment. -/
theorem segments_cons {c : α} (inside : c ≠ separator) {rest first : List α} {more : List (List α)}
    (behind : segments separator rest = first :: more) :
    segments separator (c :: rest) = (c :: first) :: more := by
  unfold segments
  rw [if_neg inside, behind]

omit [DecidableEq α] in
/-- A segment in front of others is joined to them by a separator. -/
theorem joined_cons (separator : α) (first : List α) {more : List (List α)} (others : more ≠ []) :
    joined separator (first :: more) = first ++ separator :: joined separator more := by
  cases more with
  | nil => exact absurd rfl others
  | cons next more => rfl

omit [DecidableEq α] in
/-- A character in front of the first segment is in front of all. -/
theorem joined_cons_cons (separator c : α) (first : List α) (more : List (List α)) :
    joined separator ((c :: first) :: more) = c :: joined separator (first :: more) := by
  cases more with
  | nil => rfl
  | cons next more => rfl

/-- The segments of a text are joined to the text. -/
theorem joined_segments (separator : α) (text : List α) :
    joined separator (segments separator text) = text := by
  induction text with
  | nil => rfl
  | cons c rest ih =>
    by_cases ends : c = separator
    · subst ends
      rw [segments_separator, joined_cons c [] (segments_ne_nil c rest), ih]
      rfl
    · obtain ⟨first, more, behind⟩ := List.exists_cons_of_ne_nil (segments_ne_nil separator rest)
      rw [segments_cons ends behind, joined_cons_cons, ← behind, ih]

/-- No segment contains a separator. -/
theorem notMem_of_mem_segments {text segment : List α} (member : segment ∈ segments separator text) :
    separator ∉ segment := by
  induction text generalizing segment with
  | nil =>
    obtain rfl := List.mem_singleton.mp member
    exact List.not_mem_nil
  | cons c rest ih =>
    by_cases ends : c = separator
    · subst ends
      rw [segments_separator] at member
      rcases List.mem_cons.mp member with rfl | later
      · exact List.not_mem_nil
      · exact ih later
    · obtain ⟨first, more, behind⟩ := List.exists_cons_of_ne_nil (segments_ne_nil separator rest)
      rw [segments_cons ends behind] at member
      rw [behind] at ih
      rcases List.mem_cons.mp member with rfl | later
      · intro contains
        rcases List.mem_cons.mp contains with rfl | inner
        · exact ends rfl
        · exact ih List.mem_cons_self inner
      · exact ih (List.mem_cons_of_mem _ later)

/-- A text without separators is one segment, in front of those behind the next separator. -/
theorem segments_append_separator {first : List α} (whole : separator ∉ first) (rest : List α) :
    segments separator (first ++ separator :: rest) = first :: segments separator rest := by
  induction first with
  | nil => exact segments_separator separator rest
  | cons c first ih =>
    rw [List.mem_cons, not_or] at whole
    exact segments_cons (Ne.symm whole.1) (ih whole.2)

/-- A text without separators is one segment. -/
theorem segments_of_notMem {text : List α} (whole : separator ∉ text) :
    segments separator text = [text] := by
  induction text with
  | nil => rfl
  | cons c rest ih =>
    rw [List.mem_cons, not_or] at whole
    exact segments_cons (Ne.symm whole.1) (ih whole.2)

/-- Segments are found again once they are joined. -/
theorem segments_joined {parts : List (List α)} (some_part : parts ≠ [])
    (whole : ∀ part ∈ parts, separator ∉ part) : segments separator (joined separator parts) = parts := by
  induction parts with
  | nil => exact absurd rfl some_part
  | cons first more ih =>
    obtain ⟨first_whole, more_whole⟩ := List.forall_mem_cons.mp whole
    cases more with
    | nil => exact segments_of_notMem first_whole
    | cons next more =>
      rw [joined_cons separator first (List.cons_ne_nil _ _), segments_append_separator first_whole,
        ih (List.cons_ne_nil _ _) more_whole]

omit [DecidableEq α] in
/-- The join of the segments in front is in front of the join of all. -/
theorem joined_isPrefix (separator : α) (front behind : List (List α)) :
    joined separator front <+: joined separator (front ++ behind) := by
  induction front with
  | nil => exact List.nil_prefix
  | cons first more ih =>
    cases more with
    | nil =>
      cases behind with
      | nil => exact List.prefix_rfl
      | cons next behind => exact List.prefix_append _ _
    | cons next more =>
      rw [joined_cons separator first (List.cons_ne_nil _ _), List.cons_append,
        joined_cons separator first (by simp)]
      exact (List.prefix_append_right_inj first).mpr (List.cons_prefix_cons.mpr ⟨rfl, ih⟩)

namespace Marks

variable {marks : Marks α}

/-- A segment that says nothing. -/
def IsSilent (marks : Marks α) (segment : List α) : Prop := segment = [] ∨ segment = [marks.dot]

/-- What is left out in front says nothing, and what is left starts with a name. -/
theorem exists_significant (marks : Marks α) (absolute : Bool) (reversed : List (List α)) :
    ∃ silent, reversed = silent ++ marks.significant absolute reversed ∧
      (∀ segment ∈ silent, marks.IsSilent segment) ∧
      ∀ last ∈ (marks.significant absolute reversed).head?, last ≠ [] := by
  induction reversed with
  | nil => exact ⟨[], rfl, by simp, by simp [significant]⟩
  | cons segment rest ih =>
    cases rest with
    | nil =>
      unfold significant
      by_cases silent : segment = [] ∨ (segment = [marks.dot] ∧ absolute)
      · rw [if_pos silent]
        refine ⟨[segment], rfl, fun other member => ?_, by simp⟩
        obtain rfl := List.mem_singleton.mp member
        exact silent.imp_right And.left
      · rw [if_neg silent]
        refine ⟨[], rfl, by simp, fun last first => ?_⟩
        obtain rfl := Option.some.inj first
        exact fun empty => silent (.inl empty)
    | cons next rest =>
      unfold significant
      by_cases silent : segment = [] ∨ segment = [marks.dot]
      · rw [if_pos silent]
        obtain ⟨front, whole, says_nothing, named⟩ := ih
        refine ⟨segment :: front, by rw [List.cons_append, ← whole], fun other member => ?_, named⟩
        rcases List.mem_cons.mp member with rfl | later
        · exact silent
        · exact says_nothing other later
      · rw [if_neg silent]
        refine ⟨[], rfl, by simp, fun last first => ?_⟩
        obtain rfl := Option.some.inj first
        exact fun empty => silent (.inl empty)

/-- The text of a path behind the root. -/
def body (marks : Marks α) (path : List α) : List α :=
  if marks.isAbsolute path then path.drop 1 else path

/-- The text of a path with a front, which has the root if the path has it. -/
theorem eq_body (marks : Marks α) (path : List α) :
    path = if marks.isAbsolute path then marks.slash :: marks.body path else marks.body path := by
  unfold body isAbsolute
  cases path with
  | nil => simp
  | cons c rest =>
    by_cases absolute : c = marks.slash
    · simp [absolute]
    · simp [absolute]

/-- The segments of a path without a parent all say nothing. -/
theorem silent_of_parent?_eq_none {path : List α} (orphan : marks.parent? path = none) :
    ∀ segment ∈ segments marks.slash (marks.body path), marks.IsSilent segment := by
  obtain ⟨silent, whole, says_nothing, -⟩ := marks.exists_significant (marks.isAbsolute path)
    (segments marks.slash (marks.body path)).reverse
  unfold parent? at orphan
  split at orphan
  · next nothing =>
    change marks.significant (marks.isAbsolute path)
      (segments marks.slash (marks.body path)).reverse = [] at nothing
    rw [nothing, List.append_nil] at whole
    intro segment member
    exact says_nothing segment (whole ▸ List.mem_reverse.mpr member)
  · cases orphan

/-- The segments of a path are those of its parent and its last name, with segments that say nothing
in front of and behind that name. -/
theorem exists_of_parent?_eq_some {path parent : List α}
    (above : marks.parent? path = some parent) :
    ∃ front silent last behind,
      segments marks.slash (marks.body path) = front ++ silent ++ last :: behind ∧
      (∀ segment ∈ silent, marks.IsSilent segment) ∧
      (∀ segment ∈ behind, marks.IsSilent segment) ∧ last ≠ [] ∧
      parent = if marks.isAbsolute path then marks.slash :: joined marks.slash front
        else joined marks.slash front := by
  obtain ⟨behind, whole, behind_silent, named⟩ := marks.exists_significant (marks.isAbsolute path)
    (segments marks.slash (marks.body path)).reverse
  unfold parent? at above
  split at above
  · cases above
  · next last rest found =>
    change marks.significant (marks.isAbsolute path)
      (segments marks.slash (marks.body path)).reverse = last :: rest at found
    obtain ⟨silent, parts, silent_silent, -⟩ :=
      marks.exists_significant (marks.isAbsolute path) rest
    rw [found] at whole named
    refine ⟨(marks.significant (marks.isAbsolute path) rest).reverse, silent.reverse, last,
      behind.reverse, ?_, fun segment member => ?_, fun segment member => ?_, named last rfl,
      (Option.some.inj above).symm⟩
    · rw [← List.reverse_reverse (segments _ _), whole, ← List.reverse_append, ← parts]
      simp
    · exact silent_silent segment (List.mem_reverse.mp member)
    · exact behind_silent segment (List.mem_reverse.mp member)

end Marks

end ThresholdDaemon.FileSystem
