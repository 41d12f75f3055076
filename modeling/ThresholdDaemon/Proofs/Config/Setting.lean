import ThresholdDaemon.Config.Setting
import ThresholdDaemon.Proofs.Decimal.Count
import ThresholdDaemon.Proofs.Text.Utf8

/-!
# What the values of settings mean

The six settings are one family: each has its kind of value, its place in what has been given and
in the configuration, and texts that mean a value of it. Reading a text finds exactly the value it
means, and the text of every default means the default.
-/
namespace ThresholdDaemon

/-- Only the ASCII letters have another lower case, here as in the library. -/
theorem Text.lowerAscii_eq_toLower (c : Char) : Text.lowerAscii c = c.toLower := by
  unfold Text.lowerAscii Char.toLower
  by_cases upper : 'A' ≤ c ∧ c ≤ 'Z'
  · have words : c.val ≥ 'A'.val ∧ c.val ≤ 'Z'.val := upper
    have least : ('A' : Char).val.toNat ≤ c.val.toNat := upper.1
    have most : c.val.toNat ≤ ('Z' : Char).val.toNat := upper.2
    have first : ('A' : Char).val.toNat = 65 := rfl
    have last : ('Z' : Char).val.toNat = 90 := rfl
    have shift : (32 : UInt32).toNat = 32 := rfl
    have shifted : (Char.ofNat (c.val.toNat + 32)).val.toNat = c.val.toNat + 32 :=
      Utf8.val_ofNat (by omega)
    rw [if_pos upper, dif_pos words]
    apply Char.ext
    apply UInt32.toNat_inj.mp
    refine shifted.trans ?_
    show c.val.toNat + 32 = (c.val + 32).toNat
    rw [UInt32.toNat_add, shift]
    exact (Nat.mod_eq_of_lt (by omega)).symm
  · have words : ¬(c.val ≥ 'A'.val ∧ c.val ≤ 'Z'.val) := upper
    rw [if_neg upper, dif_neg words]

/-- A text names a log format if it is its name in any case. -/
theorem LogFormat.ofText?_eq_some_iff (text : String) (format : LogFormat) :
    LogFormat.ofText? text = some format ↔
      text.toList.map Char.toLower = format.name.toList := by
  have lower : Text.lowerAscii = Char.toLower := funext Text.lowerAscii_eq_toLower
  unfold LogFormat.ofText?
  rw [lower]
  constructor
  · intro found
    have named := List.find?_some found
    exact (of_decide_eq_true named).symm
  · intro named
    rw [named]
    cases format <;> rfl

/-- Another text of the error does not change what is read. -/
theorem mapError_eq_ok_iff {ε ε' α : Type} {found : Except ε α} {message : ε → ε'} {value : α} :
    found.mapError message = .ok value ↔ found = .ok value := by
  cases found with
  | error fault => exact iff_of_false (fun read => by cases read) fun read => by cases read
  | ok other =>
    constructor
    · exact fun read => congrArg Except.ok (Except.ok.inj read)
    · exact fun read => congrArg Except.ok (Except.ok.inj read)

namespace Setting

/-- What a setting is set to. -/
abbrev Value : Setting → Type
  | socket => SocketPath
  | workers => UInt64
  | maxFrameBytes => UInt64
  | pollIntervalMs => UInt64
  | logFilter => String
  | logFormat => LogFormat

/-- A text means a value of a setting: the socket it names, the count it writes, the log format
whose name it is in any case, and for the log filter the text itself. -/
def Reads : (setting : Setting) → String → setting.Value → Prop
  | socket, text, path => SocketPath.parse text = .ok path
  | workers, text, count => WritesCount text.toList count
  | maxFrameBytes, text, count => WritesCount text.toList count
  | pollIntervalMs, text, count => WritesCount text.toList count
  | logFilter, text, filter => text = filter
  | logFormat, text, format => text.toList.map Char.toLower = format.name.toList

/-- The value of a setting that a text is read as, or why there is none. -/
def read : (setting : Setting) → String → Except String setting.Value
  | socket, text => (SocketPath.parse text).mapError SocketPathError.message
  | workers, text => (readCount text).mapError CountFault.message
  | maxFrameBytes, text => (readCount text).mapError CountFault.message
  | pollIntervalMs, text => (readCount text).mapError CountFault.message
  | logFilter, text => .ok text
  | logFormat, text =>
    match LogFormat.ofText? text with
    | some format => .ok format
    | none => .error LogFormat.unknownName

/-- A text is read as exactly the value it means. -/
theorem read_eq_ok_iff (setting : Setting) (text : String) (value : setting.Value) :
    setting.read text = .ok value ↔ setting.Reads text value := by
  cases setting with
  | socket => exact mapError_eq_ok_iff
  | workers => exact mapError_eq_ok_iff.trans (readCount_eq_ok_iff text value)
  | maxFrameBytes => exact mapError_eq_ok_iff.trans (readCount_eq_ok_iff text value)
  | pollIntervalMs => exact mapError_eq_ok_iff.trans (readCount_eq_ok_iff text value)
  | logFilter => exact ⟨Except.ok.inj, congrArg _⟩
  | logFormat =>
    rw [read, Reads, ← LogFormat.ofText?_eq_some_iff text value]
    cases LogFormat.ofText? text with
    | none => exact iff_of_false (fun read => by cases read) fun read => by cases read
    | some format => exact ⟨fun read => congrArg some (Except.ok.inj read),
        fun named => congrArg Except.ok (Option.some.inj named)⟩

/-- Some bytes mean a value of a setting: they are the UTF-8 of a text that does. -/
def Means (setting : Setting) (bytes : Bytes) (value : setting.Value) : Prop :=
  ∃ text : String, bytes = Utf8.encode text.toList ∧ setting.Reads text value

/-- Some bytes are valid for a setting. -/
def IsValid (setting : Setting) (bytes : Bytes) : Prop := ∃ value, setting.Means bytes value

/-- Some bytes mean a value if they are a text that is read as the value. -/
theorem means_iff (setting : Setting) (bytes : Bytes) (value : setting.Value) :
    setting.Means bytes value ↔
      ∃ text, Utf8.decode bytes = .ok text ∧ setting.read (String.ofList text) = .ok value := by
  constructor
  · rintro ⟨text, rfl, reads⟩
    refine ⟨text.toList, Utf8.decode_encode _, ?_⟩
    rw [String.ofList_toList]
    exact (setting.read_eq_ok_iff text value).mpr reads
  · rintro ⟨text, decoded, found⟩
    refine ⟨String.ofList text, ?_, (setting.read_eq_ok_iff _ value).mp found⟩
    rw [String.toList_ofList]
    exact Utf8.decode_eq_ok_iff.mp decoded

/-- Some bytes mean at most one value. -/
theorem Means.unique {setting : Setting} {bytes : Bytes} {one other : setting.Value}
    (first : setting.Means bytes one) (second : setting.Means bytes other) : one = other := by
  obtain ⟨text, rfl, reads⟩ := first
  obtain ⟨again, same, reads_again⟩ := second
  obtain rfl : text = again := String.toList_inj.mp (Utf8.encode_injective same)
  rw [← read_eq_ok_iff] at reads reads_again
  exact Except.ok.inj (reads.symm.trans reads_again)

end Setting

namespace Given

/-- The value that a setting has been given. -/
def get? (given : Given) : (setting : Setting) → Option setting.Value
  | .socket => given.socket
  | .workers => given.workers
  | .maxFrameBytes => given.maxFrameBytes
  | .pollIntervalMs => given.pollIntervalMs
  | .logFilter => given.logFilter
  | .logFormat => given.logFormat

/-- Give a setting a value. -/
def set (given : Given) : (setting : Setting) → setting.Value → Given
  | .socket, value => { given with socket := some value }
  | .workers, value => { given with workers := some value }
  | .maxFrameBytes, value => { given with maxFrameBytes := some value }
  | .pollIntervalMs, value => { given with pollIntervalMs := some value }
  | .logFilter, value => { given with logFilter := some value }
  | .logFormat, value => { given with logFormat := some value }

/-- A setting has the value it was given. -/
@[simp]
theorem get?_set (given : Given) (setting : Setting) (value : setting.Value) :
    (given.set setting value).get? setting = some value := by
  cases setting <;> rfl

/-- The other settings keep their values. -/
theorem get?_set_of_ne (given : Given) {setting other : Setting} (differs : other ≠ setting)
    (value : setting.Value) : (given.set setting value).get? other = given.get? other := by
  cases setting <;> cases other <;> first | rfl | exact absurd rfl differs

/-- A setting is given the value that the text is read as. -/
theorem assign_eq (given : Given) (setting : Setting) (text : String) :
    given.assign setting text = (setting.read text).map (given.set setting) := by
  cases setting with
  | logFilter => rfl
  | socket => rw [assign, Setting.read]; cases SocketPath.parse text <;> rfl
  | logFormat => rw [assign, Setting.read]; cases LogFormat.ofText? text <;> rfl
  | _ => rw [assign, Setting.read]; cases readCount text <;> rfl

end Given

namespace Config

/-- What a setting is set to in a configuration. -/
def get (config : Config) : (setting : Setting) → setting.Value
  | .socket => config.socket
  | .workers => config.workers
  | .maxFrameBytes => config.maxFrameBytes
  | .pollIntervalMs => config.pollIntervalMs
  | .logFilter => config.logFilter
  | .logFormat => config.logFormat

/-- A configuration is what its settings are set to. -/
theorem ext_get {config other : Config} (same : ∀ setting, config.get setting = other.get setting) :
    config = other := by
  cases config
  cases other
  rw [mk.injEq]
  exact ⟨same .socket, same .workers, same .maxFrameBytes, same .pollIntervalMs, same .logFilter,
    same .logFormat⟩

/-- Every setting but the socket has a default. -/
theorem exists_defaultText {setting : Setting} (other : setting ≠ .socket) :
    ∃ text, setting.defaultText? = some text := by
  cases setting with
  | socket => exact absurd rfl other
  | _ => exact ⟨_, rfl⟩

/-- The text of each default means the default. -/
theorem reads_default (path : SocketPath) {setting : Setting} {text : String}
    (shown : setting.defaultText? = some text) :
    setting.Reads text (({ socket := path } : Config).get setting) := by
  rw [← setting.read_eq_ok_iff]
  cases setting <;> cases shown <;> rfl

end Config

/-- Once a socket is given, every other setting has its given value or its default. -/
theorem Given.toConfig?_eq_some_iff (given : Given) (config : Config) :
    given.toConfig? = some config ↔
      ∃ path, given.socket = some path ∧ ∀ setting,
        config.get setting =
          (given.get? setting).getD (({ socket := path } : Config).get setting) := by
  unfold toConfig?
  rw [Option.map_eq_some_iff]
  constructor
  · rintro ⟨path, named, rfl⟩
    refine ⟨path, named, fun setting => ?_⟩
    cases setting with
    | socket => exact (congrArg (Option.getD · path) named).symm
    | _ => rfl
  · rintro ⟨path, named, same⟩
    refine ⟨path, named, Config.ext_get fun setting => ?_⟩
    rw [same setting]
    cases setting with
    | socket => exact (congrArg (Option.getD · path) named).symm
    | _ => rfl

end ThresholdDaemon
