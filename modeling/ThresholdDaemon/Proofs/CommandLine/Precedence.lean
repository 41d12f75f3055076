import Mathlib.Data.List.Nodup
import ThresholdDaemon.Proofs.CommandLine.Scan

/-!
# The precedence of configuration sources

A setting takes its value from the command line, or else from the environment, or else it has its
default. This is so for each setting by itself: its effective value alone decides what it is set
to, the configuration loads exactly when there is a socket and every effective value is valid, and
neither the order of the arguments nor a value of the environment behind one on the line matters.
-/
namespace ThresholdDaemon.CommandLine

/-- A start of the program: values for some of the settings on the command line, each at most once
and none starting with a hyphen, and values for some of them in the environment. -/
structure Invocation where
  /-- The name of the program. -/
  program : Bytes
  /-- The settings on the command line, in order. -/
  items : List Item
  /-- The environment variables. -/
  environment : Environment
  /-- No value looks like an option. -/
  plain : ∀ item ∈ items, item.IsPlain
  /-- No setting is named twice. -/
  distinct : (items.map Item.setting).Nodup

namespace Invocation

variable (invocation : Invocation)

/-- The command line. -/
def line : List Bytes := invocation.program :: invocation.items.flatMap Item.arguments

/-- The configuration that is loaded. -/
def load : Except UsageError Config := CommandLine.load invocation.line invocation.environment

/-- The value of a setting on the command line. -/
def onLine? (setting : Setting) : Option Bytes :=
  (invocation.items.find? fun item => item.setting = setting).map Item.value

/-- The value of a setting on the command line, or else in the environment. -/
def given? (setting : Setting) : Option Bytes :=
  (invocation.onLine? setting).or (invocation.environment setting)

/-- The value that counts for a setting: the given one, or else the default. -/
def effective? (setting : Setting) : Option Bytes :=
  (invocation.given? setting).or (setting.defaultText?.map fun text => Utf8.encode text.toList)

/-- The socket has no default. -/
theorem effective?_socket : invocation.effective? .socket = invocation.given? .socket :=
  Option.or_none

/-- All that the command line and the environment assign. -/
def assignments : List Assignment :=
  invocation.items.map Item.assignment ++
    invocation.environment.assignments (invocation.items.map Item.setting) Setting.all

/-- A setting has no value on the command line if it is not named there. -/
theorem onLine?_eq_none_iff (setting : Setting) :
    invocation.onLine? setting = none ↔ setting ∉ invocation.items.map Item.setting := by
  unfold onLine?
  rw [Option.map_eq_none_iff, List.find?_eq_none]
  simp

/-- A value on the command line is that of an item; no other item names its setting. -/
theorem onLine?_eq_some_iff (setting : Setting) (value : Bytes) :
    invocation.onLine? setting = some value ↔
      ∃ item ∈ invocation.items, item.setting = setting ∧ item.value = value := by
  constructor
  · intro found
    obtain ⟨item, first, rfl⟩ := Option.map_eq_some_iff.mp found
    have named := List.find?_some first
    exact ⟨item, List.mem_of_find?_eq_some first, of_decide_eq_true named, rfl⟩
  · rintro ⟨item, member, rfl, rfl⟩
    unfold onLine?
    cases first : invocation.items.find? fun other => other.setting = item.setting with
    | none =>
      have absent := List.find?_eq_none.mp first item member
      exact absurd (decide_eq_true rfl) absent
    | some other =>
      have named := List.find?_some first
      have equal : other = item := List.inj_on_of_nodup_map invocation.distinct
        (List.mem_of_find?_eq_some first) member (of_decide_eq_true named)
      exact congrArg (fun item => some item.value) equal

/-- No setting is assigned twice. -/
theorem distinct_assignments : (invocation.assignments.map Assignment.setting).Nodup := by
  have front : (invocation.items.map Item.assignment).map Assignment.setting =
      invocation.items.map Item.setting := by
    rw [List.map_map]
    rfl
  unfold assignments
  rw [List.map_append, front]
  refine List.nodup_append.mpr ⟨invocation.distinct,
    Environment.nodup_assignments _ _ (by decide), ?_⟩
  rintro setting on_line other in_environment rfl
  obtain ⟨assignment, member, rfl⟩ := List.mem_map.mp in_environment
  exact ((Environment.mem_assignments _ _ _ _).mp member).2.1 on_line

variable {invocation} in
/-- What is assigned to a setting is its given value. -/
theorem given?_of_mem {assignment : Assignment} (member : assignment ∈ invocation.assignments) :
    invocation.given? assignment.setting = some assignment.value := by
  unfold given?
  rcases List.mem_append.mp member with on_line | in_environment
  · obtain ⟨item, item_member, rfl⟩ := List.mem_map.mp on_line
    have value := (invocation.onLine?_eq_some_iff _ _).mpr ⟨item, item_member, rfl, rfl⟩
    exact congrArg (Option.or · _) value
  · obtain ⟨-, fresh, value, -⟩ := (Environment.mem_assignments _ _ _ _).mp in_environment
    rw [(invocation.onLine?_eq_none_iff _).mpr fresh, Option.none_or, value]

variable {invocation} in
/-- A given value is assigned. -/
theorem exists_assignment {setting : Setting} {value : Bytes}
    (given : invocation.given? setting = some value) :
    ∃ assignment ∈ invocation.assignments,
      assignment.setting = setting ∧ assignment.value = value := by
  unfold given? at given
  cases on_line : invocation.onLine? setting with
  | some other =>
    rw [on_line, Option.some_or] at given
    obtain rfl := Option.some.inj given
    obtain ⟨item, member, named, has_value⟩ := (invocation.onLine?_eq_some_iff _ _).mp on_line
    exact ⟨item.assignment, List.mem_append_left _ (List.mem_map_of_mem member), named, has_value⟩
  | none =>
    rw [on_line, Option.none_or] at given
    have fresh := (invocation.onLine?_eq_none_iff setting).mp on_line
    have every : setting ∈ Setting.all := by cases setting <;> decide
    exact ⟨⟨setting, value, false⟩, List.mem_append_right _
      ((Environment.mem_assignments _ _ _ _).mpr ⟨every, fresh, given, rfl⟩), rfl, rfl⟩

/-- Loading accepts the assignments one after the other. -/
theorem refusal_load :
    invocation.load.mapError UsageError.refusal = (do
      let scan ← invocation.assignments.foldlM Scan.accept {}
      scan.finish) := by
  refine Eq.trans ?_ (readArguments_eq invocation.plain invocation.distinct invocation.environment)
  unfold load CommandLine.load
  have behind : invocation.line.drop 1 = invocation.items.flatMap Item.arguments := rfl
  rw [behind]
  cases readArguments (invocation.items.flatMap Item.arguments) invocation.environment <;> rfl

/-- A configuration is loaded if all assignments are accepted and a socket is among them. -/
theorem load_eq_ok_iff_accepted (config : Config) :
    invocation.load = .ok config ↔
      ∃ scan, invocation.assignments.foldlM Scan.accept {} = .ok scan ∧
        scan.given.toConfig? = some config := by
  rw [← @mapError_eq_ok_iff _ _ _ _ UsageError.refusal, refusal_load]
  cases accepted : invocation.assignments.foldlM Scan.accept {} with
  | error refusal =>
    refine iff_of_false (fun loaded => by cases loaded) ?_
    rintro ⟨scan, same, -⟩
    cases same
  | ok scan =>
    have finished : scan.finish = .ok config ↔ scan.given.toConfig? = some config := by
      unfold Scan.finish
      cases scan.given.toConfig? with
      | none => exact iff_of_false (fun loaded => by cases loaded) fun same => by cases same
      | some other => rw [Except.ok.injEq, Option.some.injEq]
    refine finished.trans ⟨fun complete => ⟨scan, rfl, complete⟩, ?_⟩
    rintro ⟨same, equal, complete⟩
    obtain rfl : scan = same := Except.ok.inj equal
    exact complete

variable {invocation} in
/-- In a loaded configuration each setting is what its effective value means. -/
theorem means_of_load {config : Config} (loaded : invocation.load = .ok config)
    (setting : Setting) :
    ∃ value, invocation.effective? setting = some value ∧
      setting.Means value (config.get setting) := by
  obtain ⟨scan, accepted, complete⟩ := (invocation.load_eq_ok_iff_accepted config).mp loaded
  obtain ⟨path, socket, fields⟩ := (scan.given.toConfig?_eq_some_iff config).mp complete
  have holds := Scan.holds_start.foldlM_accept accepted
  unfold effective?
  rw [fields setting]
  -- A given value has been assigned and is held; a setting without one has not been touched.
  cases given : invocation.given? setting with
  | some bytes =>
    obtain ⟨assignment, member, rfl, rfl⟩ := exists_assignment given
    obtain ⟨value, means, found⟩ := holds.given assignment member
    rw [found]
    exact ⟨assignment.value, rfl, means⟩
  | none =>
    have untouched : scan.given.get? setting = none := by
      refine holds.others setting fun member => ?_
      obtain ⟨assignment, assigned, rfl⟩ := List.mem_map.mp member
      rw [given?_of_mem assigned] at given
      cases given
    have other : setting ≠ .socket := by
      rintro rfl
      cases socket.symm.trans untouched
    obtain ⟨text, shown⟩ := Config.exists_defaultText other
    rw [untouched, shown]
    exact ⟨Utf8.encode text.toList, rfl, text, rfl, Config.reads_default path shown⟩

/-- A configuration is loaded if there is a socket and every effective value is valid. -/
theorem exists_load (socket : (invocation.given? .socket).isSome)
    (valid : ∀ setting value, invocation.effective? setting = some value →
      setting.IsValid value) : ∃ config, invocation.load = .ok config := by
  have all_valid : ∀ assignment ∈ invocation.assignments,
      assignment.setting.IsValid assignment.value := by
    intro assignment member
    refine valid _ _ ?_
    rw [effective?, given?_of_mem member]
    rfl
  obtain ⟨scan, accepted⟩ : ∃ scan, invocation.assignments.foldlM Scan.accept {} = .ok scan :=
    Scan.holds_start.exists_foldlM_accept invocation.distinct_assignments all_valid
  obtain ⟨value, given⟩ := Option.isSome_iff_exists.mp socket
  obtain ⟨assignment, member, named, -⟩ := exists_assignment given
  have found : ∃ path, scan.given.get? .socket = some path := by
    obtain ⟨path, -, found⟩ := (Scan.holds_start.foldlM_accept accepted).given assignment member
    exact named ▸ ⟨path, found⟩
  obtain ⟨path, has_path⟩ := found
  have complete : scan.given.toConfig?.isSome := by
    have socket_given : scan.given.socket = some path := has_path
    rw [Given.toConfig?, socket_given]
    rfl
  obtain ⟨config, complete⟩ := Option.isSome_iff_exists.mp complete
  exact ⟨config, (invocation.load_eq_ok_iff_accepted config).mpr ⟨scan, accepted, complete⟩⟩

/-- The configuration that is loaded is the one in which each setting is what its effective value
means. -/
theorem load_eq_ok_iff (config : Config) :
    invocation.load = .ok config ↔
      ∀ setting, ∃ value, invocation.effective? setting = some value ∧
        setting.Means value (config.get setting) := by
  refine ⟨fun loaded => means_of_load loaded, fun means => ?_⟩
  have socket : (invocation.given? .socket).isSome := by
    obtain ⟨value, effective, -⟩ := means .socket
    rw [← effective?_socket, effective]
    rfl
  obtain ⟨other, loaded⟩ := invocation.exists_load socket fun setting value effective => by
    obtain ⟨same, found, meaning⟩ := means setting
    obtain rfl : value = same := Option.some.inj (effective.symm.trans found)
    exact ⟨_, meaning⟩
  have equal : other = config := Config.ext_get fun setting => by
    obtain ⟨value, effective, meaning⟩ := means setting
    obtain ⟨same, found, loaded_meaning⟩ := means_of_load loaded setting
    obtain rfl : value = same := Option.some.inj (effective.symm.trans found)
    exact loaded_meaning.unique meaning
  rw [loaded, equal]

variable {invocation} in
/-- Neither the order nor the spelling of the items matters for the values on the line. -/
theorem onLine?_congr {other : Invocation}
    (same : (other.items.map fun item => (item.setting, item.value)).Perm
      (invocation.items.map fun item => (item.setting, item.value))) (setting : Setting) :
    other.onLine? setting = invocation.onLine? setting := by
  have named (items : List Item) (value : Bytes) :
      (∃ item ∈ items, item.setting = setting ∧ item.value = value) ↔
        (setting, value) ∈ items.map fun item => (item.setting, item.value) := by
    rw [List.mem_map]
    simp only [Prod.mk.injEq]
  apply Option.ext
  intro value
  rw [onLine?_eq_some_iff, onLine?_eq_some_iff, named, named, same.mem_iff]

/-- The configuration loads exactly if the socket has a value on the command line or in the
environment and the effective value of every setting is valid. Then each setting is what its own
effective value means. Another order or spelling of the items loads the same configuration, and
another value in the environment behind one on the line changes nothing, not even why a line is
refused. -/
theorem load_precedence :
    ((∃ config, invocation.load = .ok config) ↔
      (invocation.given? .socket).isSome ∧
        ∀ setting value, invocation.effective? setting = some value → setting.IsValid value) ∧
    (∀ config, invocation.load = .ok config →
      ∀ setting, ∃ value, invocation.effective? setting = some value ∧
        setting.Means value (config.get setting)) ∧
    (∀ other : Invocation,
      (other.items.map fun item => (item.setting, item.value)).Perm
        (invocation.items.map fun item => (item.setting, item.value)) →
      other.environment = invocation.environment →
      ∀ config, other.load = .ok config ↔ invocation.load = .ok config) ∧
    (∀ other : Invocation, other.items = invocation.items →
      (∀ setting, invocation.onLine? setting = none →
        other.environment setting = invocation.environment setting) →
      other.load.mapError UsageError.refusal = invocation.load.mapError UsageError.refusal) := by
  refine ⟨⟨?_, ?_⟩, fun config => means_of_load, ?_, ?_⟩
  · rintro ⟨config, loaded⟩
    constructor
    · obtain ⟨value, effective, -⟩ := means_of_load loaded .socket
      rw [← effective?_socket, effective]
      rfl
    · intro setting value effective
      obtain ⟨same, found, means⟩ := means_of_load loaded setting
      obtain rfl : value = same := Option.some.inj (effective.symm.trans found)
      exact ⟨_, means⟩
  · rintro ⟨socket, valid⟩
    exact invocation.exists_load socket valid
  · intro other same environment config
    have effective (setting : Setting) :
        other.effective? setting = invocation.effective? setting := by
      unfold effective? given?
      rw [onLine?_congr same, environment]
    rw [load_eq_ok_iff, load_eq_ok_iff]
    simp only [effective]
  · intro other items environment
    have assignments : other.assignments = invocation.assignments := by
      unfold Invocation.assignments Environment.assignments
      rw [items]
      congr 1
      refine List.filterMap_congr fun setting _ => ?_
      unfold Environment.assignment?
      by_cases on_line : setting ∈ invocation.items.map Item.setting
      · rw [if_pos on_line, if_pos on_line]
      · rw [if_neg on_line, if_neg on_line,
          environment setting ((invocation.onLine?_eq_none_iff setting).mpr on_line)]
    rw [refusal_load, refusal_load, assignments]

/-- Five workers on the command line, none in the environment. -/
def overriding : Invocation where
  program := Utf8.encode "acpd".toList
  items := [⟨.workers, Utf8.encode "+5".toList, true⟩,
    ⟨.socket, Utf8.encode "/run/acp.sock".toList, false⟩]
  environment
    | .workers => some (Utf8.encode "0".toList)
    | .logFormat => some (Utf8.encode "Compact".toList)
    | _ => none
  plain := by decide
  distinct := by decide

/-- The zero workers of the environment do not stop it from loading with five. -/
theorem load_precedence_overriding :
    ∃ config, overriding.load = .ok config ∧
      Setting.workers.Means (Utf8.encode "+5".toList) config.workers ∧
      Setting.logFormat.Means (Utf8.encode "Compact".toList) config.logFormat := by
  have accepted : overriding.load.toOption.isSome := by decide +kernel
  obtain ⟨config, loaded⟩ : ∃ config, overriding.load = .ok config := by
    cases loaded : overriding.load with
    | error error =>
      rw [loaded] at accepted
      cases accepted
    | ok config => exact ⟨config, rfl⟩
  obtain ⟨workers, effective, five⟩ :=
    (load_precedence overriding).2.1 config loaded .workers
  obtain ⟨format, format_effective, compact⟩ :=
    (load_precedence overriding).2.1 config loaded .logFormat
  obtain rfl := Option.some.inj effective
  obtain rfl := Option.some.inj format_effective
  exact ⟨config, loaded, five, compact⟩

end Invocation

end ThresholdDaemon.CommandLine
