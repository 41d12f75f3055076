import ThresholdDaemon.CommandLine.Scan
import ThresholdDaemon.Proofs.Config.Setting

/-!
# Command lines as assignments

A command line that names each setting at most once, options in either spelling and the socket
anywhere among them, assigns the values to the settings in order. The environment then assigns the
settings that the line does not. What remains of the arguments is this list of assignments: a value
that waits to be settled is one that the next argument, or the end of the line, assigns.
-/
namespace ThresholdDaemon.CommandLine

/-- A setting and its value on a command line. -/
structure Item where
  /-- The setting. -/
  setting : Setting
  /-- The value. -/
  value : Bytes
  /-- The value is attached to its option. The socket has no option, so it stands alone. -/
  attached : Bool
  deriving DecidableEq, Repr

/-- The value that a setting is assigned. -/
structure Assignment where
  /-- The setting. -/
  setting : Setting
  /-- The value. -/
  value : Bytes
  /-- The value stands in the place of the socket. -/
  placed : Bool
  deriving DecidableEq, Repr

namespace Item

/-- The arguments of an item: the value alone for the socket, and otherwise the option with the
value attached or behind it. -/
def arguments (item : Item) : List Bytes :=
  match item.setting.option? with
  | none => [item.value]
  | some name =>
    if item.attached then [Utf8.encode ("--" ++ name ++ "=").toList ++ item.value]
    else [Utf8.encode ("--" ++ name).toList, item.value]

/-- The value does not start with a hyphen. -/
def IsPlain (item : Item) : Prop := item.value.head? ≠ some Scan.hyphen

instance : DecidablePred IsPlain := fun _ => inferInstanceAs (Decidable (_ ≠ _))

/-- What an item assigns. -/
def assignment (item : Item) : Assignment :=
  ⟨item.setting, item.value, item.setting = .socket⟩

end Item

namespace Scan

/-- Record the value of an assignment. -/
def record (scan : Scan) (assignment : Assignment) (value : assignment.setting.Value) : Scan :=
  { scan with
    used := scan.used ++ [.setting assignment.setting]
    given := scan.given.set assignment.setting value
    placed := scan.placed || assignment.placed }

/-- Accept an assignment, or say what is wrong with it. -/
def accept (scan : Scan) (assignment : Assignment) : Except Refusal Scan :=
  let scan := { scan with placed := scan.placed || assignment.placed }
  match scan.give assignment.setting assignment.value with
  | (scan, none) => .ok scan
  | (_, some refusal) => .error refusal

/-- Out of the place of the socket, accepting an assignment is giving its value. -/
theorem accept_unplaced (scan : Scan) (setting : Setting) (value : Bytes) :
    scan.accept ⟨setting, value, false⟩ =
      match scan.give setting value with
      | (scan, none) => .ok scan
      | (_, some refusal) => .error refusal := by
  obtain ⟨used, given, waiting, placed, valuesOnly⟩ := scan
  cases placed <;> rfl

/-- An assignment is accepted if the setting has none yet and the value means something, and then
its meaning is recorded. -/
theorem accept_eq_ok_iff (scan next : Scan) (assignment : Assignment) :
    scan.accept assignment = .ok next ↔
      .setting assignment.setting ∉ scan.used ∧
        ∃ value, assignment.setting.Means assignment.value value ∧
          scan.record assignment value = next := by
  unfold accept give
  dsimp only
  by_cases again : .setting assignment.setting ∈ scan.used
  · rw [if_pos again]
    exact iff_of_false (fun accepted => by cases accepted) fun fresh => fresh.1 again
  · rw [if_neg again]
    simp only [Setting.means_iff]
    cases decoded : Utf8.decode assignment.value with
    | error fault =>
      refine iff_of_false (fun accepted => by cases accepted) ?_
      rintro ⟨-, value, ⟨text, sound, -⟩, -⟩
      cases sound
    | ok text =>
      dsimp only
      rw [Given.assign_eq]
      cases found : assignment.setting.read (String.ofList text) with
      | error reason =>
        refine iff_of_false (fun accepted => by cases accepted) ?_
        rintro ⟨-, value, ⟨same, sound, other⟩, -⟩
        obtain rfl : text = same := Except.ok.inj sound
        cases found.symm.trans other
      | ok value =>
        -- Bytes are those of one text only, and a text means one value only.
        constructor
        · intro accepted
          exact ⟨again, value, ⟨text, rfl, found⟩, Except.ok.inj accepted⟩
        · rintro ⟨-, same, ⟨again, sound, other⟩, rfl⟩
          obtain rfl : text = again := Except.ok.inj sound
          obtain rfl : value = same := Except.ok.inj (found.symm.trans other)
          rfl

/-- A scan between two items: options are still taken, and what waits has its value. -/
structure Between (scan : Scan) : Prop where
  /-- Options are taken. -/
  options : scan.valuesOnly = false
  /-- What waits has its value. -/
  complete : ∀ waiting, scan.waiting = some waiting → waiting.value ≠ none

/-- Nothing waits, so nothing needs to be settled. -/
theorem settled_of_waiting_none {scan : Scan} (settled : scan.waiting = none) :
    scan.settled = .ok scan := by
  unfold Scan.settled settle
  rw [settled]

/-- A value that waits is assigned when it is settled. -/
theorem settled_of_waiting_some {scan : Scan} {setting : Setting} {value : Bytes}
    (waits : scan.waiting = some ⟨setting, some value⟩) :
    scan.settled = ({ scan with waiting := none } : Scan).accept ⟨setting, value, false⟩ := by
  obtain ⟨used, given, waiting, placed, valuesOnly⟩ := scan
  obtain rfl : waiting = some ⟨setting, some value⟩ := waits
  exact (accept_unplaced _ setting value).symm

/-- Settling leaves nothing waiting, and the place of the socket as it was. -/
theorem Between.of_settled {scan next : Scan} (between : scan.Between)
    (settles : scan.settled = .ok next) :
    next.waiting = none ∧ next.valuesOnly = false ∧ next.placed = scan.placed := by
  cases waits : scan.waiting with
  | none =>
    rw [settled_of_waiting_none waits] at settles
    obtain rfl : scan = next := Except.ok.inj settles
    exact ⟨waits, between.options, rfl⟩
  | some waiting =>
    obtain ⟨setting, value⟩ := waiting
    cases value with
    | none => exact absurd rfl (between.complete _ waits)
    | some value =>
      rw [settled_of_waiting_some waits, accept_eq_ok_iff] at settles
      obtain ⟨-, meaning, -, rfl⟩ := settles
      exact ⟨rfl, between.options, Bool.or_false _⟩

/-- An argument that is no option is a value. -/
theorem take_plain {scan : Scan} (options : scan.valuesOnly = false) {value : Bytes}
    (plain : value.head? ≠ some hyphen) : scan.take value = scan.takeValue value := by
  unfold take
  rw [options, if_neg Bool.false_ne_true]
  match value with
  | [] => rfl
  | [first] => rfl
  | [first, second] =>
    have differs : first ≠ hyphen := fun same => plain (congrArg some same)
    dsimp only
    rw [if_neg fun both => differs both.1, if_neg differs]
  | first :: second :: third :: rest =>
    have differs : first ≠ hyphen := fun same => plain (congrArg some same)
    dsimp only
    rw [if_neg fun both => differs both.1, if_neg differs]

/-- Behind two hyphens stands an option. -/
theorem take_hyphens {scan : Scan} (options : scan.valuesOnly = false) {text : Bytes}
    (named : text ≠ []) :
    scan.take (hyphen :: hyphen :: text) =
      scan.takeOption (splitOption text).1 (splitOption text).2 := by
  obtain ⟨first, rest, rfl⟩ := List.exists_cons_of_ne_nil named
  unfold take
  rw [options, if_neg Bool.false_ne_true]
  exact if_pos ⟨rfl, rfl⟩

/-- No byte of a name without an equals sign is one. -/
theorem all_ne_equalsSign {name : Bytes} (whole : equalsSign ∉ name) :
    ∀ byte ∈ name, decide (byte ≠ equalsSign) = true := fun _ member =>
  decide_eq_true fun same => whole (same ▸ member)

/-- A text without an equals sign names an option without a value. -/
theorem splitOption_name {name : Bytes} (whole : equalsSign ∉ name) :
    splitOption name = (name, none) := by
  have none_left : name.dropWhile (· ≠ equalsSign) = [] := by
    rw [← name.append_nil, List.dropWhile_append_of_pos (all_ne_equalsSign whole),
      List.dropWhile_nil]
  unfold splitOption
  rw [none_left]

/-- What stands behind the first equals sign is the value of the option. -/
theorem splitOption_attached {name : Bytes} (whole : equalsSign ∉ name) (value : Bytes) :
    splitOption (name ++ equalsSign :: value) = (name, some value) := by
  have others := all_ne_equalsSign whole
  have behind : (name ++ equalsSign :: value).dropWhile (· ≠ equalsSign) = equalsSign :: value := by
    rw [List.dropWhile_append_of_pos others, List.dropWhile_cons_of_neg (by decide)]
  have front : (name ++ equalsSign :: value).takeWhile (· ≠ equalsSign) = name := by
    rw [List.takeWhile_append_of_pos others, List.takeWhile_cons_of_neg (by decide),
      List.append_nil]
  unfold splitOption
  rw [behind, front]

/-- The name of an option is not empty and has no equals sign in it. -/
theorem encode_option {setting : Setting} {name : String} (named : setting.option? = some name) :
    Utf8.encode name.toList ≠ [] ∧ equalsSign ∉ Utf8.encode name.toList := by
  cases setting <;> cases named <;> decide

/-- The name of an option is found. -/
theorem ofOption?_option {setting : Setting} {name : String}
    (named : setting.option? = some name) : Flag.ofOption? name = some (.setting setting) := by
  cases setting <;> cases named <;> decide

/-- An option settles what waits in front of it, and has its value or waits for it. -/
theorem takeOption_named (scan : Scan) {setting : Setting} {name : String}
    (named : setting.option? = some name) (value : Option Bytes) :
    scan.takeOption (Utf8.encode name.toList) value = (do
      let scan ← scan.settled
      match value with
      | none => .ok { scan with waiting := some ⟨setting, none⟩ }
      | some value => scan.accept ⟨setting, value, false⟩) := by
  unfold takeOption
  rw [Utf8.decode_encode]
  dsimp only [Except.toOption, Option.bind]
  rw [String.ofList_toList, ofOption?_option named]
  cases value with
  | none => rfl
  | some value =>
    exact congrArg (scan.settled >>= ·)
      (funext fun settled => (accept_unplaced settled setting value).symm)

/-- What an item does once all in front of it is settled: an attached value is accepted at once,
any other waits, and that of the socket takes its place. -/
def enter (scan : Scan) (item : Item) : Except Refusal Scan :=
  if item.setting = .socket then
    .ok { scan with waiting := some ⟨.socket, some item.value⟩, placed := true }
  else if item.attached then scan.accept ⟨item.setting, item.value, false⟩
  else .ok { scan with waiting := some ⟨item.setting, some item.value⟩ }

/-- Only the socket has no option. -/
theorem option?_eq_none_iff (setting : Setting) : setting.option? = none ↔ setting = .socket := by
  cases setting <;> decide

/-- An option starts with two hyphens, and its name is read up to the equals sign. -/
theorem encode_dashed (name : String) :
    Utf8.encode ("--" ++ name).toList = hyphen :: hyphen :: Utf8.encode name.toList := by
  rw [String.toList_append]
  rfl

/-- An option with an attached value starts with two hyphens and has an equals sign. -/
theorem encode_dashed_equals (name : String) (value : Bytes) :
    Utf8.encode ("--" ++ name ++ "=").toList ++ value =
      hyphen :: hyphen :: (Utf8.encode name.toList ++ equalsSign :: value) := by
  have sign : Utf8.encode "=".toList = [equalsSign] := rfl
  rw [String.toList_append, Utf8.encode, List.flatMap_append, ← Utf8.encode, ← Utf8.encode, sign,
    encode_dashed, List.append_assoc]
  rfl

/-- The value of the socket settles what waits in front of it and waits in turn. -/
theorem Between.take_socket {scan : Scan} (between : scan.Between) {value : Bytes}
    (plain : value.head? ≠ some hyphen) (free : scan.placed = false) :
    scan.take value = (do
      let scan ← scan.settled
      .ok { scan with waiting := some ⟨.socket, some value⟩, placed := true }) := by
  rw [take_plain between.options plain]
  unfold takeValue
  split
  · next waits => exact absurd rfl (between.complete _ waits)
  · rw [takePlaced, free, if_neg Bool.false_ne_true]

/-- An option and its value settle what waits in front of them, and the value waits in turn. -/
theorem Between.take_detached {scan : Scan} (between : scan.Between) {setting : Setting}
    {name : String} (named : setting.option? = some name) {value : Bytes}
    (plain : value.head? ≠ some hyphen) :
    [Utf8.encode ("--" ++ name).toList, value].foldlM take scan = (do
      let scan ← scan.settled
      .ok { scan with waiting := some ⟨setting, some value⟩ }) := by
  obtain ⟨nonempty, whole⟩ := encode_option named
  rw [List.foldlM_cons, encode_dashed, take_hyphens between.options nonempty,
    splitOption_name whole, takeOption_named scan named]
  cases settles : scan.settled with
  | error refusal => rfl
  | ok settled =>
    have options : settled.valuesOnly = false := (between.of_settled settles).2.1
    have behind : ({ settled with waiting := some ⟨setting, none⟩ } : Scan).take value =
        .ok { settled with waiting := some ⟨setting, some value⟩ } := by
      refine (take_plain ?_ plain).trans rfl
      exact options
    exact congrArg (· >>= pure) behind

/-- An option with its value attached settles what waits in front of it and has the value. -/
theorem Between.take_attached {scan : Scan} (between : scan.Between) {setting : Setting}
    {name : String} (named : setting.option? = some name) (value : Bytes) :
    scan.take (Utf8.encode ("--" ++ name ++ "=").toList ++ value) = (do
      let scan ← scan.settled
      scan.accept ⟨setting, value, false⟩) := by
  obtain ⟨-, whole⟩ := encode_option named
  have text : Utf8.encode name.toList ++ equalsSign :: value ≠ [] := by simp
  rw [encode_dashed_equals, take_hyphens between.options text, splitOption_attached whole,
    takeOption_named scan named]

/-- The arguments of an item settle what waits in front of it and enter it. -/
theorem Between.take_arguments {scan : Scan} (between : scan.Between) {item : Item}
    (plain : item.IsPlain) (free : item.setting = .socket → scan.placed = false) :
    item.arguments.foldlM take scan = (do
      let scan ← scan.settled
      scan.enter item) := by
  unfold Item.arguments enter
  cases named : item.setting.option? with
  | none =>
    have socket : item.setting = .socket := (option?_eq_none_iff _).mp named
    simp only [if_pos socket]
    rw [List.foldlM_cons, between.take_socket plain (free socket)]
    exact bind_pure _
  | some name =>
    have option : item.setting ≠ .socket := fun socket => by
      rw [socket] at named
      cases named
    simp only [if_neg option]
    cases item.attached with
    | true =>
      rw [if_pos rfl, List.foldlM_cons, between.take_attached named]
      exact bind_pure _
    | false => exact between.take_detached named plain

/-- Once an item is entered, nothing is missing, and the place of the socket is taken if it was
or if the item is the socket. -/
theorem Between.of_enter {scan next : Scan} (between : scan.Between) {item : Item}
    (enters : scan.enter item = .ok next) :
    next.Between ∧ (next.placed = true → scan.placed = true ∨ item.setting = .socket) := by
  unfold Scan.enter at enters
  split at enters
  · next socket =>
    obtain rfl := Except.ok.inj enters
    refine ⟨⟨between.options, ?_⟩, fun _ => .inr socket⟩
    rintro waiting ⟨⟩ ⟨⟩
  · split at enters
    · obtain ⟨-, value, -, rfl⟩ := (accept_eq_ok_iff _ _ _).mp enters
      refine ⟨⟨between.options, between.complete⟩, fun placed => .inl ?_⟩
      exact (Bool.or_false _).symm.trans placed
    · obtain rfl := Except.ok.inj enters
      refine ⟨⟨between.options, ?_⟩, fun placed => .inl placed⟩
      rintro waiting ⟨⟩ ⟨⟩

/-- Settling what an item leaves accepts what it assigns. -/
theorem enter_settled {scan : Scan} (unwaiting : scan.waiting = none) (item : Item) :
    scan.enter item >>= settled = scan.accept item.assignment := by
  obtain ⟨used, given, waiting, placed, valuesOnly⟩ := scan
  obtain rfl : waiting = none := unwaiting
  unfold enter Item.assignment
  by_cases socket : item.setting = .socket
  · simp only [if_pos socket, decide_eq_true socket]
    refine (settled_of_waiting_some rfl).trans ?_
    rw [socket, accept, accept, Bool.or_true]
    rfl
  · simp only [if_neg socket, decide_eq_false socket]
    cases item.attached with
    | false => exact settled_of_waiting_some rfl
    | true =>
      rw [if_pos rfl]
      cases accepted : accept _ _ with
      | error refusal => rfl
      | ok next =>
        obtain ⟨-, value, -, recorded⟩ := (accept_eq_ok_iff _ _ _).mp accepted
        have nothing_waits : next.waiting = none := by
          rw [← recorded]
          rfl
        exact settled_of_waiting_none nothing_waits

/-- Taking the arguments of items and settling what is left assigns their values in order. -/
theorem Between.foldlM_take {items : List Item} {scan : Scan} (between : scan.Between)
    (plain : ∀ item ∈ items, item.IsPlain) (distinct : (items.map Item.setting).Nodup)
    (free : scan.placed = true → .socket ∉ items.map Item.setting) :
    (items.flatMap Item.arguments).foldlM take scan >>= settled = (do
      let scan ← scan.settled
      (items.map Item.assignment).foldlM accept scan) := by
  -- The arguments of an item settle what waits in front of it and may leave a value waiting in
  -- turn, so it is the settled scan that goes from item to item.
  induction items generalizing scan with
  | nil => exact (pure_bind scan settled).trans (bind_pure scan.settled).symm
  | cons item rest ih =>
    obtain ⟨plain_item, plain_rest⟩ := List.forall_mem_cons.mp plain
    rw [List.map_cons, List.nodup_cons] at distinct
    have unplaced : item.setting = .socket → scan.placed = false := fun socket =>
      Bool.eq_false_iff.mpr fun placed => free placed (by simp [socket])
    rw [List.flatMap_cons, List.foldlM_append, between.take_arguments plain_item unplaced]
    simp only [bind_assoc, List.map_cons, List.foldlM_cons]
    cases settles : scan.settled with
    | error refusal => rfl
    | ok settled =>
      obtain ⟨unwaiting, options, kept⟩ := between.of_settled settles
      have between_settled : settled.Between := ⟨options, by simp [unwaiting]⟩
      show settled.enter item >>= _ = settled.accept item.assignment >>= _
      rw [← enter_settled unwaiting item, bind_assoc]
      cases entered : settled.enter item with
      | error refusal => rfl
      | ok next =>
        obtain ⟨between_next, placing⟩ := between_settled.of_enter entered
        refine ih between_next plain_rest distinct.2 fun placed => ?_
        rcases placing placed with before | socket
        · rw [kept] at before
          exact fun member => free before (List.mem_cons_of_mem _ member)
        · exact socket ▸ distinct.1

/-- A scan holds what the values of some assignments mean, and nothing else. -/
structure Holds (scan : Scan) (done : List Assignment) : Prop where
  /-- The settings of the assignments are used, in order. -/
  used : scan.used = done.map fun assignment => .setting assignment.setting
  /-- Each of them has what its value means. -/
  given : ∀ assignment ∈ done, ∃ value,
    assignment.setting.Means assignment.value value ∧
      scan.given.get? assignment.setting = some value
  /-- No other setting has a value. -/
  others : ∀ setting, setting ∉ done.map Assignment.setting → scan.given.get? setting = none

/-- A scan that has not taken anything holds nothing. -/
theorem holds_start : ({} : Scan).Holds [] where
  used := rfl
  given := fun _ member => absurd member List.not_mem_nil
  others := fun setting _ => by cases setting <;> rfl

/-- Once another assignment is accepted, its value is held too. -/
theorem Holds.accept {scan next : Scan} {done : List Assignment} (holds : scan.Holds done)
    {assignment : Assignment} (accepted : scan.accept assignment = .ok next) :
    next.Holds (done ++ [assignment]) := by
  obtain ⟨fresh, value, means, rfl⟩ := (accept_eq_ok_iff _ _ _).mp accepted
  constructor
  · rw [List.map_append, ← holds.used]
    rfl
  · intro other member
    rcases List.mem_append.mp member with before | last
    · have apart : other.setting ≠ assignment.setting := by
        intro same
        rw [holds.used, ← same] at fresh
        exact fresh (List.mem_map_of_mem before)
      obtain ⟨earlier, earlier_means, found⟩ := holds.given other before
      exact ⟨earlier, earlier_means, (Given.get?_set_of_ne _ apart value).trans found⟩
    · obtain rfl := List.mem_singleton.mp last
      exact ⟨value, means, Given.get?_set _ _ value⟩
  · intro setting absent
    rw [List.map_append, List.mem_append, not_or] at absent
    have apart : setting ≠ assignment.setting := fun same => absent.2 (by simp [same])
    exact (Given.get?_set_of_ne _ apart value).trans (holds.others setting absent.1)

/-- Once assignments are accepted one after the other, all their values are held. -/
theorem Holds.foldlM_accept {rest done : List Assignment} {scan next : Scan}
    (holds : scan.Holds done) (accepted : rest.foldlM Scan.accept scan = .ok next) :
    next.Holds (done ++ rest) := by
  induction rest generalizing scan done with
  | nil =>
    obtain rfl : scan = next := Except.ok.inj accepted
    exact (List.append_nil done).symm ▸ holds
  | cons assignment rest ih =>
    rw [List.foldlM_cons] at accepted
    cases first : scan.accept assignment with
    | error refusal =>
      rw [first] at accepted
      cases accepted
    | ok middle =>
      rw [first] at accepted
      have behind := ih (holds.accept first) accepted
      rwa [List.append_assoc] at behind

/-- Assignments of valid values to settings that have none yet are all accepted. -/
theorem Holds.exists_foldlM_accept {rest done : List Assignment} {scan : Scan}
    (holds : scan.Holds done) (distinct : ((done ++ rest).map Assignment.setting).Nodup)
    (valid : ∀ assignment ∈ rest, assignment.setting.IsValid assignment.value) :
    ∃ next, rest.foldlM Scan.accept scan = .ok next := by
  induction rest generalizing scan done with
  | nil => exact ⟨scan, rfl⟩
  | cons assignment rest ih =>
    obtain ⟨⟨value, means⟩, valid_rest⟩ := List.forall_mem_cons.mp valid
    have fresh : .setting assignment.setting ∉ scan.used := by
      rw [List.map_append, List.nodup_append] at distinct
      intro member
      rw [holds.used, List.mem_map] at member
      obtain ⟨earlier, before, same⟩ := member
      exact distinct.2.2 _ (List.mem_map_of_mem before) _ List.mem_cons_self
        (Flag.setting.inj same)
    have accepted := (accept_eq_ok_iff scan _ assignment).mpr ⟨fresh, value, means, rfl⟩
    rw [List.append_cons] at distinct
    obtain ⟨next, behind⟩ := ih (holds.accept accepted) distinct valid_rest
    exact ⟨next, by rw [List.foldlM_cons, accepted]; exact behind⟩

/-- Look a setting up in the environment unless it has been given. -/
def look (environment : Environment) (scan : Scan) (setting : Setting) : Except Refusal Scan :=
  if .setting setting ∈ scan.used then .ok scan
  else
    match environment setting with
    | none => .ok scan
    | some value => scan.accept ⟨setting, value, false⟩

/-- The environment is gone through setting by setting. -/
theorem takeEnvironment_eq_foldlM (scan : Scan) (environment : Environment) :
    scan.takeEnvironment environment = Setting.all.foldlM (look environment) scan := by
  have steps : look environment = fun scan setting =>
      if .setting setting ∈ scan.used then .ok scan
      else
        match environment setting with
        | none => .ok scan
        | some value =>
          match scan.give setting value with
          | (scan, none) => .ok scan
          | (_, some refusal) => .error refusal := by
    funext scan setting
    by_cases used : .setting setting ∈ scan.used
    · rw [look, if_pos used, if_pos used]
    · rw [look, if_neg used, if_neg used]
      cases environment setting with
      | none => rfl
      | some value => exact accept_unplaced scan setting value
  rw [steps]
  rfl

end Scan

namespace Environment

variable (environment : Environment) (given : List Setting)

/-- What the environment assigns to a setting, unless it has been given. -/
def assignment? (setting : Setting) : Option Assignment :=
  if setting ∈ given then none
  else (environment setting).map fun value => ⟨setting, value, false⟩

/-- What the environment assigns to some settings besides those that have been given. -/
def assignments (settings : List Setting) : List Assignment :=
  settings.filterMap (environment.assignment? given)

/-- The environment assigns its value to a setting that has not been given. -/
theorem assignment?_eq_some_iff (setting : Setting) (assignment : Assignment) :
    environment.assignment? given setting = some assignment ↔
      assignment.setting = setting ∧ setting ∉ given ∧
        environment setting = some assignment.value ∧ assignment.placed = false := by
  unfold assignment?
  by_cases member : setting ∈ given
  · rw [if_pos member]
    exact iff_of_false (fun found => by cases found) fun found => found.2.1 member
  · rw [if_neg member, Option.map_eq_some_iff]
    constructor
    · rintro ⟨value, found, rfl⟩
      exact ⟨rfl, member, found, rfl⟩
    · obtain ⟨named, value, placed⟩ := assignment
      rintro ⟨rfl, -, found, rfl⟩
      exact ⟨value, found, rfl⟩

/-- The assignments of the environment are those of the settings that have not been given. -/
theorem mem_assignments (settings : List Setting) (assignment : Assignment) :
    assignment ∈ environment.assignments given settings ↔
      assignment.setting ∈ settings ∧ assignment.setting ∉ given ∧
        environment assignment.setting = some assignment.value ∧ assignment.placed = false := by
  unfold assignments
  simp only [List.mem_filterMap, assignment?_eq_some_iff]
  constructor
  · rintro ⟨setting, member, rfl, found⟩
    exact ⟨member, found⟩
  · rintro ⟨member, found⟩
    exact ⟨assignment.setting, member, rfl, found⟩

/-- The environment assigns no setting twice. -/
theorem nodup_assignments {settings : List Setting} (distinct : settings.Nodup) :
    ((environment.assignments given settings).map Assignment.setting).Nodup := by
  unfold assignments List.Nodup
  rw [List.pairwise_map, List.pairwise_filterMap]
  refine distinct.imp fun {one other} apart first one_assigns second other_assigns => ?_
  rw [((assignment?_eq_some_iff _ _ _ _).mp one_assigns).1,
    ((assignment?_eq_some_iff _ _ _ _).mp other_assigns).1]
  exact apart

end Environment

/-- Looking settings up assigns those that have not been given. -/
theorem Scan.foldlM_look (environment : Environment) (given : List Setting)
    {settings : List Setting} (distinct : settings.Nodup) {scan : Scan}
    (same : ∀ setting ∈ settings, .setting setting ∈ scan.used ↔ setting ∈ given) :
    settings.foldlM (look environment) scan =
      (environment.assignments given settings).foldlM accept scan := by
  induction settings generalizing scan with
  | nil => rfl
  | cons setting rest ih =>
    obtain ⟨fresh, distinct_rest⟩ := List.nodup_cons.mp distinct
    obtain ⟨same_setting, same_rest⟩ := List.forall_mem_cons.mp same
    unfold Environment.assignments
    rw [List.foldlM_cons, look, List.filterMap_cons, Environment.assignment?]
    by_cases used : .setting setting ∈ scan.used
    · rw [if_pos used, if_pos (same_setting.mp used)]
      exact ih distinct_rest same_rest
    · rw [if_neg used, if_neg fun member => used (same_setting.mpr member)]
      cases environment setting with
      | none => exact ih distinct_rest same_rest
      | some value =>
        show scan.accept ⟨setting, value, false⟩ >>= _ = scan.accept ⟨setting, value, false⟩ >>= _
        cases accepted : scan.accept ⟨setting, value, false⟩ with
        | error refusal => rfl
        | ok next =>
          refine ih distinct_rest fun other member => ?_
          obtain ⟨-, meaning, -, rfl⟩ := (accept_eq_ok_iff _ _ _).mp accepted
          have apart : other ≠ setting := fun same => fresh (same ▸ member)
          rw [← same_rest other member]
          simp [record, apart]

/-- The line assigns the values of its items in order, and then the environment those of the
settings that are not on the line. -/
theorem readArguments_eq {items : List Item} (plain : ∀ item ∈ items, item.IsPlain)
    (distinct : (items.map Item.setting).Nodup) (environment : Environment) :
    readArguments (items.flatMap Item.arguments) environment = (do
      let scan ← (items.map Item.assignment ++
        environment.assignments (items.map Item.setting) Setting.all).foldlM Scan.accept {}
      scan.finish) := by
  have between : ({} : Scan).Between := ⟨rfl, fun _ waits => by cases waits⟩
  have taken := between.foldlM_take plain distinct fun placed => absurd placed Bool.false_ne_true
  unfold readArguments
  rw [← bind_assoc, taken, Scan.settled_of_waiting_none rfl, List.foldlM_append, bind_assoc]
  show (items.map Item.assignment).foldlM Scan.accept {} >>= _ = _
  cases accepted : (items.map Item.assignment).foldlM Scan.accept {} with
  | error refusal => rfl
  | ok scan =>
    have used := (Scan.holds_start.foldlM_accept accepted).used
    have same : ∀ setting ∈ Setting.all,
        .setting setting ∈ scan.used ↔ setting ∈ items.map Item.setting := by
      intro setting _
      rw [used]
      simp [Item.assignment]
    show scan.takeEnvironment environment >>= _ = _
    rw [scan.takeEnvironment_eq_foldlM, Scan.foldlM_look environment _ (by decide) same]
    rfl

end ThresholdDaemon.CommandLine
