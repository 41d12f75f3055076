import ThresholdDaemon.Proofs.Json.Reads

/-!
# What readers give

A reader gives values that satisfy a condition if no value that it ever takes off a text fails it.
The steps of a reader are followed one by one, so that a condition on the parts of a document comes
to hold of the whole.

Whatever text a value is taken from, its objects have their keys in order and its nesting is within
the limit. So it is exact unless a double is somewhere inside it.
-/
namespace ThresholdDaemon.Json

variable {α β ρ : Type}

/-- All values that a reader takes off a text satisfy a condition. -/
def Gives (reader : Reader α) (holds : α → Prop) : Prop :=
  ∀ cursor value behind, reader cursor = .ok (value, behind) → holds value

namespace Gives

variable {holds : α → Prop}

/-- Every reader gives values. -/
theorem anything (reader : Reader α) : Gives reader fun _ => True := fun _ _ _ _ => trivial

/-- A value that is there already is given as it is. -/
theorem pure {value : α} (known : holds value) : Gives (Pure.pure value) holds := by
  rintro cursor _ _ ⟨⟩
  exact known

/-- A fault gives no value. -/
theorem fail (cause : Cause) : Gives (Reader.fail cause) holds := fun _ _ _ => nofun

/-- A fault at the next byte gives no value. -/
theorem failNext (cause : Cause) : Gives (Reader.failNext cause) holds := fun _ _ _ => nofun

/-- Behind a reader another one may rely on what the first gives. -/
theorem bind {reader : Reader β} {known : β → Prop} {next : β → Reader α}
    (first : Gives reader known) (second : ∀ value, known value → Gives (next value) holds) :
    Gives (reader >>= next) holds := by
  intro cursor value behind read
  change (reader cursor >>= fun (value, cursor) => next value cursor) = _ at read
  cases found : reader cursor with
  | error fault => simp [found, Bind.bind, Except.bind] at read
  | ok result =>
    rw [found] at read
    exact second result.1 (first _ _ _ found) _ _ _ read

/-- Behind a reader of which nothing is known. -/
theorem behind {reader : Reader β} {next : β → Reader α}
    (second : ∀ value, Gives (next value) holds) : Gives (reader >>= next) holds :=
  (anything reader).bind fun value _ => second value

/-- A value may be put to use. -/
theorem map {reader : Reader β} {known : β → Prop} {use : β → α} (first : Gives reader known)
    (used : ∀ value, known value → holds (use value)) : Gives (use <$> reader) holds := by
  rw [map_eq_pure_bind]
  exact first.bind fun value given => pure (used value given)

/-- A weaker condition holds as well. -/
theorem weaken {reader : Reader α} {known : α → Prop} (first : Gives reader known)
    (weaker : ∀ value, known value → holds value) : Gives reader holds :=
  fun cursor value behind read => weaker value (first cursor value behind read)

/-- What a reader gives on a whole text. -/
theorem run {reader : Reader α} (gives : Gives reader holds) {text : String} {value : α}
    (read : reader.run text = .ok value) : holds value := by
  have finished : Gives (reader >>= Reader.finish) holds := by
    refine gives.bind fun value given => behind fun next => ?_
    cases next with
    | none => exact pure given
    | some c => exact failNext _
  change ((reader >>= Reader.finish) (.start text.toList) >>= fun result => Pure.pure result.1) =
    .ok value at read
  cases found : (reader >>= Reader.finish) (.start text.toList) with
  | error fault =>
    rw [found] at read
    cases read
  | ok result =>
    rw [found] at read
    obtain rfl := Except.ok.inj read
    exact finished _ _ _ found

end Gives

namespace Reader

variable {holds : α → Prop}

/-- The elements of an array are given by the reader of an element. -/
theorem gives_items {item : Reader α} (each : Gives item holds) :
    ∀ (fuel : Nat) (found : List α), (∀ value ∈ found, holds value) →
      Gives (items item fuel found) fun values => ∀ value ∈ values, holds value := by
  intro fuel
  induction fuel with
  | zero => exact fun found _ => .fail _
  | succ fuel ih =>
    intro found known
    refine .behind fun another => ?_
    cases another with
    | true => exact each.bind fun value given => ih _ (List.forall_mem_cons.mpr ⟨given, known⟩)
    | false => exact .pure fun value member => known value (List.mem_reverse.mp member)

/-- All elements of an array are given by the reader of an element. -/
theorem gives_array {item : Reader α} (each : Gives item holds) :
    Gives (array item) fun values => ∀ value ∈ values, holds value := by
  refine .behind fun _ => .behind fun left => ?_
  exact (gives_items each _ [] (by simp)).bind fun values known => .behind fun _ => .pure known

/-- What every member keeps holds of what the members are folded into. -/
theorem gives_members {member : String → α → Reader α}
    (step : ∀ key gathered, holds gathered → Gives (member key gathered) holds) :
    ∀ (fuel : Nat) (first : Bool) (gathered : α), holds gathered →
      Gives (members member fuel first gathered) holds := by
  intro fuel
  induction fuel with
  | zero => exact fun first gathered _ => .fail _
  | succ fuel ih =>
    intro first gathered known
    refine .behind fun another => ?_
    cases another with
    | true =>
      exact .behind fun key => (step key gathered known).bind fun next given => ih _ _ given
    | false => exact .pure known

/-- What every member keeps holds of what an object is folded into. -/
theorem gives_object {member : String → α → Reader α} {start : α} (known : holds start)
    (step : ∀ key gathered, holds gathered → Gives (member key gathered) holds) :
    Gives (object member start) holds := by
  refine .behind fun _ => .behind fun left => ?_
  exact (gives_members step _ _ _ known).bind fun gathered given => .behind fun _ => .pure given

/-- No value is given where something of another type stands. -/
theorem gives_mistyped (expected : String) : Gives (mistyped (α := α) expected) holds :=
  .behind fun _ => .fail _

/-- No value is given where a record is closed to fail. -/
theorem gives_closeAndFail (cause : Cause) : Gives (closeAndFail (α := α) cause) holds := by
  refine .behind fun next => ?_
  dsimp only
  split
  · exact .behind fun _ => .fail _
  · exact .fail _

/-- A level of nesting is left to what is read inside. -/
theorem gives_deeper {limit : Nat} {inner : Nat → Reader α}
    (inside : ∀ depth, depth < limit → Gives (inner depth) holds) :
    Gives (deeper limit inner) holds := by
  cases limit with
  | zero => exact .failNext _
  | succ depth => exact inside depth (Nat.lt_succ_self depth)

/-- The elements of a list are given with one level of nesting less. -/
theorem gives_list {limit : Nat} {item : Nat → Reader α}
    (each : ∀ depth, depth < limit → Gives (item depth) holds) :
    Gives (list item limit) fun values => ∀ value ∈ values, holds value := by
  refine .behind fun next => ?_
  split
  · exact .fail _
  · exact gives_deeper fun depth below => gives_array (each depth below)
  · exact gives_mistyped _

end Reader

namespace Value

mutual

/-- No number of a value is a double. -/
def IsWhole : Value → Prop
  | null | bool _ | text _ => True
  | number value => value.toInt?.isSome
  | array items => IsWholeItems items
  | object members => IsWholeMembers members

/-- No number of some values is a double. -/
def IsWholeItems : List Value → Prop
  | [] => True
  | item :: rest => item.IsWhole ∧ IsWholeItems rest

/-- No number of the values of some members is a double. -/
def IsWholeMembers : List (String × Value) → Prop
  | [] => True
  | (_, value) :: rest => value.IsWhole ∧ IsWholeMembers rest

end

/-- A value is exact unless a double is inside it, and its nesting is within a limit. -/
structure Orderly (limit : Nat) (value : Value) : Prop where
  /-- All but its numbers is as in exact values. -/
  exact : value.IsWhole → value.Exact
  /-- It is not nested deeper than the limit. -/
  shallow : value.depth ≤ limit

/-- Orderly values in order make an orderly array. -/
theorem orderly_array {limit : Nat} {items : List Value}
    (each : ∀ item ∈ items, item.Orderly limit) : (array items).Orderly (limit + 1) := by
  have parts : (IsWholeItems items → ExactItems items) ∧ depthItems items ≤ limit := by
    induction items with
    | nil => exact ⟨id, Nat.zero_le _⟩
    | cons item rest ih =>
      obtain ⟨first, others⟩ := List.forall_mem_cons.mp each
      obtain ⟨exact, shallow⟩ := ih others
      exact ⟨And.imp first.exact exact, Nat.max_le.mpr ⟨first.shallow, shallow⟩⟩
  exact ⟨parts.1, Nat.succ_le_succ parts.2⟩

/-- Orderly values under keys in order. -/
structure OrderlyMembers (limit : Nat) (members : Members) : Prop where
  /-- The keys are in order. -/
  ascending : Ascending members
  /-- The values are orderly. -/
  each : ∀ member ∈ members, member.2.Orderly limit

/-- Orderly values under keys in order make an orderly object. -/
theorem OrderlyMembers.object {limit : Nat} {members : Members}
    (orderly : OrderlyMembers limit members) : (Value.object members).Orderly (limit + 1) := by
  obtain ⟨ascending, each⟩ := orderly
  have parts : (IsWholeMembers members → ExactMembers members) ∧ depthMembers members ≤ limit := by
    clear ascending
    induction members with
    | nil => exact ⟨id, Nat.zero_le _⟩
    | cons member rest ih =>
      obtain ⟨first, others⟩ := List.forall_mem_cons.mp each
      obtain ⟨exact, shallow⟩ := ih others
      exact ⟨And.imp first.exact exact, Nat.max_le.mpr ⟨first.shallow, shallow⟩⟩
  exact ⟨fun whole => ⟨ascending, parts.1 whole⟩, Nat.succ_le_succ parts.2⟩

end Value

/-- Nothing but the new member is put among members. -/
theorem Members.mem_insert {key : String} {value : Value} {members : Members}
    {member : String × Value} (inside : member ∈ Members.insert key value members) :
    member = (key, value) ∨ member ∈ members := by
  induction members with
  | nil => exact .inl (List.mem_singleton.mp inside)
  | cons first rest ih =>
    obtain ⟨other, held⟩ := first
    rw [Members.insert] at inside
    split at inside
    · exact List.mem_cons.mp inside
    split at inside
    · exact (List.mem_cons.mp inside).imp_right (List.mem_cons_of_mem _)
    · rcases List.mem_cons.mp inside with rfl | behind
      · exact .inr List.mem_cons_self
      · exact (ih behind).imp_right (List.mem_cons_of_mem _)

/-- A member is put where the order of the keys is kept. -/
theorem Members.ascending_insert (key : String) (value : Value) {members : Members}
    (ascending : Value.Ascending members) :
    Value.Ascending (Members.insert key value members) := by
  rw [Value.ascending_iff_pairwise] at ascending ⊢
  induction members with
  | nil => exact List.pairwise_singleton _ _
  | cons first rest ih =>
    obtain ⟨other, held⟩ := first
    obtain ⟨before, sorted⟩ := List.pairwise_cons.mp ascending
    rw [Members.insert]
    split
    · next below =>
      refine List.pairwise_cons.mpr ⟨fun member inside => ?_, ascending⟩
      rcases List.mem_cons.mp inside with rfl | behind
      · exact below
      · exact String.lt_trans below (before member behind)
    split
    · next same => exact List.pairwise_cons.mpr ⟨same ▸ before, sorted⟩
    · next above apart =>
      refine List.pairwise_cons.mpr ⟨fun member inside => ?_, ih sorted⟩
      rcases Members.mem_insert inside with rfl | behind
      · exact String.not_le.mp fun below => apart (String.le_antisymm below (String.not_lt.mp above))
      · exact before member behind

namespace Value

open Reader

/-- What is read under the keys of an object is orderly if the values are. -/
theorem gives_memberReader {depth : Nat} (each : Gives (Reader.value depth) (Orderly depth))
    (key : String) (found : Members) (known : OrderlyMembers depth found) :
    Gives (memberReader depth key found) (OrderlyMembers depth) := by
  refine .behind fun _ => each.bind fun held orderly => .pure ⟨?_, fun member inside => ?_⟩
  · exact Members.ascending_insert key held known.ascending
  · rcases Members.mem_insert inside with rfl | before
    · exact orderly
    · exact known.each member before

/-- A value is orderly if the values inside it are. -/
theorem gives_valueWithin {inner : Option (Reader Value)} {limit : Nat}
    (list : ∀ reader ∈ inner, Gives (Reader.array reader) fun items => (array items).Orderly limit)
    (record : ∀ reader ∈ inner, Gives
      (Reader.object (fun key found => do
        colon
        let held ← reader
        pure (Members.insert key held found)) [])
      fun members => (object members).Orderly limit) :
    Gives (valueWithin inner) (Orderly limit) := by
  have null_orderly : null.Orderly limit := ⟨id, Nat.zero_le _⟩
  have bool_orderly (value : Bool) : (bool value).Orderly limit := ⟨id, Nat.zero_le _⟩
  have text_orderly (value : String) : (text value).Orderly limit := ⟨id, Nat.zero_le _⟩
  have number_orderly (value : Number) : (number value).Orderly limit := ⟨id, Nat.zero_le _⟩
  refine .behind fun next => ?_
  split
  · exact .fail _
  · exact .behind fun _ => .behind fun _ => .pure null_orderly
  · exact .behind fun _ => .behind fun _ => .pure (bool_orderly _)
  · exact .behind fun _ => .behind fun _ => .pure (bool_orderly _)
  · exact .behind fun _ => (Gives.anything _).map fun value _ => text_orderly value
  · cases inner with
    | none => exact .failNext _
    | some reader => exact (list reader rfl).map fun _ => id
  · cases inner with
    | none => exact .failNext _
    | some reader => exact (record reader rfl).map fun _ => id
  · split
    · exact (Gives.anything _).map fun value _ => number_orderly value
    · exact .failNext _

/-- Every value that is read is orderly. -/
theorem gives_orderly (depth : Nat) : Gives (Reader.value depth) (Orderly depth) := by
  induction depth with
  | zero => exact gives_valueWithin nofun nofun
  | succ depth ih =>
    refine gives_valueWithin ?_ ?_
    · rintro _ ⟨⟩
      exact (gives_array ih).weaken fun items each => orderly_array each
    · rintro _ ⟨⟩
      have start : OrderlyMembers depth [] := ⟨trivial, by simp⟩
      exact (gives_object start (gives_memberReader ih)).weaken fun members known => known.object

end Value

namespace Shape

variable {shape : Shape ρ α} {holds : α → Prop} {limit : Nat}

/-- What the fields keep holds of what is gathered from an array of them. -/
theorem gives_elements {depth : Nat} {keeps : ρ → Prop} (fields : List (Field ρ))
    (each : ∀ field ∈ fields, ∀ gathered, keeps gathered → Gives (field.read depth gathered) keeps) :
    ∀ (index : Nat) (gathered : ρ), keeps gathered →
      Gives (shape.elements depth index fields gathered) keeps := by
  induction fields with
  | nil => exact fun index gathered known => .pure known
  | cons field more ih =>
    intro index gathered known
    obtain ⟨first, others⟩ := List.forall_mem_cons.mp each
    refine .behind fun another => ?_
    cases another with
    | true => exact (first gathered known).bind fun next given => ih others _ _ given
    | false => exact .behind fun _ => .fail _

/-- What the fields keep is kept by every member. -/
theorem gives_member {depth : Nat} {keeps : ρ → Prop}
    (each : ∀ field ∈ shape.fields, ∀ gathered, keeps gathered →
      Gives (field.read depth gathered) keeps)
    (key : String) (gathered : ρ) (known : keeps gathered) :
    Gives (shape.member depth key gathered) keeps := by
  unfold member
  split
  · exact .behind fun _ => .behind fun _ => .pure known
  · next field found =>
    split
    · exact Reader.gives_closeAndFail _
    · exact .behind fun _ => each field (List.mem_of_find?_eq_some found) gathered known

/-- A record is made of gathered fields that satisfy what all fields keep. -/
theorem gives_read (keeps : Nat → ρ → Prop) (start : ∀ depth, keeps depth shape.start)
    (each : ∀ depth, ∀ field ∈ shape.fields, ∀ gathered, keeps depth gathered →
      Gives (field.read depth gathered) (keeps depth))
    (finish : ∀ depth, depth < limit → ∀ gathered record, keeps depth gathered →
      shape.finish gathered = .ok record → holds record) :
    Gives (shape.read limit) holds := by
  have done (depth : Nat) (below : depth < limit) (gathered : ρ) (known : keeps depth gathered) :
      Gives (read.done shape gathered) holds := by
    unfold read.done
    split
    · next record made => exact .pure (finish depth below gathered record known made)
    · exact .fail _
  refine .behind fun next => ?_
  split
  · exact .fail _
  · refine Reader.gives_deeper fun depth below => .behind fun _ => ?_
    exact (gives_elements _ (each depth) 0 _ (start depth)).bind fun gathered known =>
      .behind fun _ => done depth below gathered known
  · refine Reader.gives_deeper fun depth below => ?_
    exact (Reader.gives_object (start depth) (gives_member (each depth))).bind
      fun gathered known => done depth below gathered known
  · exact Reader.gives_mistyped _

end Shape

end ThresholdDaemon.Json
