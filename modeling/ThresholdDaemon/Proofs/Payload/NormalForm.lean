import Mathlib
import ThresholdDaemon.Proofs.Json.Gives
import ThresholdDaemon.Proofs.Payload.Reads

/-!
# The normal form of payloads

However a payload is spelt, its value is printed in one way, and the printed text is read as the
value again. The material inside it decides: it is read with its keys in order and nested no deeper
than printing and reading it again allows, so unless a double is inside it nothing is lost.
-/
namespace ThresholdDaemon

open Json

/-- The types of payloads and of the descriptors in them. -/
inductive PayloadKind where
  /-- A request to deal. -/
  | dealRequest
  /-- Dealt keys. -/
  | dealResponse
  /-- A request to sign. -/
  | signRequest
  /-- A request to verify. -/
  | verifyRequest
  /-- A verdict. -/
  | verifyResponse
  /-- A group key. -/
  | groupKey
  /-- A key share. -/
  | keyShare
  /-- A signature share. -/
  | signatureShare
  /-- Material alone. -/
  | material
  deriving DecidableEq, Repr

namespace PayloadKind

/-- The values of a type. -/
abbrev Carrier : PayloadKind → Type
  | dealRequest => DealRequest
  | dealResponse => DealtKeys
  | signRequest => SignRequest
  | verifyRequest => VerifyRequest
  | verifyResponse => VerifyResponse
  | groupKey => GroupKey
  | keyShare => KeyShare
  | signatureShare => SignatureShare
  | material => Material

/-- How a type is read, with some levels of nesting left. -/
def reader : (kind : PayloadKind) → Nat → Reader kind.Carrier
  | dealRequest => DealRequest.shape.read
  | dealResponse => DealtKeys.shape.read
  | signRequest => SignRequest.read
  | verifyRequest => VerifyRequest.shape.read
  | verifyResponse => VerifyResponse.shape.read
  | groupKey => GroupKey.shape.read
  | keyShare => KeyShare.shape.read
  | signatureShare => SignatureShare.shape.read
  | material => Reader.value

/-- The characters of a value of a type. -/
def print : (kind : PayloadKind) → kind.Carrier → List Char
  | dealRequest => DealRequest.print
  | dealResponse => DealtKeys.print
  | signRequest => SignRequest.print
  | verifyRequest => VerifyRequest.print
  | verifyResponse => VerifyResponse.print
  | groupKey => GroupKey.print
  | keyShare => KeyShare.print
  | signatureShare => SignatureShare.print
  | material => Value.print

/-- The material inside a value of a type, each with the levels of nesting around it. -/
def materials : (kind : PayloadKind) → kind.Carrier → List (Nat × Material)
  | dealRequest, _ => []
  | dealResponse, keys => (2, keys.groupKey.key) :: keys.shares.map fun share => (3, share.share)
  | signRequest, request => [(1, request.share.share)]
  | verifyRequest, request =>
    (2, request.groupKey.key) :: request.signatures.map fun share => (3, share.signature)
  | verifyResponse, _ => []
  | groupKey, key => [(1, key.key)]
  | keyShare, share => [(1, share.share)]
  | signatureShare, share => [(1, share.signature)]
  | material, value => [(0, value)]

/-- No number in the material of a payload is a double. -/
def IsWhole (kind : PayloadKind) (value : kind.Carrier) : Prop :=
  ∀ held ∈ kind.materials value, Value.IsWhole held.2

/-- The value of a text. -/
def parse (kind : PayloadKind) (text : String) : Except Fault kind.Carrier :=
  (kind.reader depthLimit).run text

/-- The text of a value. -/
def render (kind : PayloadKind) (value : kind.Carrier) : String := String.ofList (kind.print value)

/-- Read a text and print its value. -/
def reencode (kind : PayloadKind) (text : String) : Except Fault String := do
  return kind.render (← kind.parse text)

/-- Read a text and print its value so many times, each time the text printed before. -/
def reencodeTimes (kind : PayloadKind) : Nat → String → Except Fault String
  | 0, text => .ok text
  | count + 1, text => do reencodeTimes kind count (← kind.reencode text)

end PayloadKind

/-- Material with some levels of nesting around it, all within a limit: it is exact unless a double
is inside it. -/
structure Material.Fits (limit levels : Nat) (material : Material) : Prop where
  /-- All but its numbers is as in exact values. -/
  exact : Value.IsWhole material → Value.Exact material
  /-- The levels around it leave room for its own. -/
  shallow : Value.depth material + levels ≤ limit

/-- A value that is read fits with nothing around it. -/
theorem Json.Value.Orderly.fits {limit : Nat} {value : Value} (orderly : Value.Orderly limit value) :
    Material.Fits limit 0 value := ⟨orderly.exact, orderly.shallow⟩

/-- One more level of nesting goes around what fits. -/
theorem Material.Fits.within {depth limit levels : Nat} {material : Material}
    (fits : Material.Fits depth levels material) (below : depth < limit) :
    Material.Fits limit (levels + 1) material :=
  ⟨fits.exact, Nat.lt_of_le_of_lt fits.shallow below⟩

/-- What is kept whenever an act succeeds is kept when it is done for values in order. -/
theorem keeps_foldlM {ε α β : Type} {act : β → α → Except ε β} {holds : β → Prop} {list : List α}
    (step : ∀ state, ∀ a ∈ list, ∀ next, holds state → act state a = .ok next → holds next)
    {start last : β} (first : holds start) (folded : list.foldlM act start = .ok last) :
    holds last := by
  induction list generalizing start with
  | nil =>
    obtain rfl := Except.ok.inj folded
    exact first
  | cons a rest ih =>
    rw [List.foldlM_cons] at folded
    obtain ⟨state, next, others⟩ := bind_eq_ok.mp folded
    exact ih (fun state a member => step state a (.tail _ member))
      (step start a List.mem_cons_self state first next) others

/-- A field that must be there and is. -/
theorem required_eq_ok {α : Type} {name : String} {field : Option α} {value : α} :
    required name field = .ok value ↔ field = some value := by
  cases field <;> simp [required]

/-- A reader that puts a value among the fields gathered. -/
theorem Json.gives_fill {α ρ : Type} {reader : Reader α} {known : α → Prop} {keeps : ρ → Prop}
    {fill : α → ρ} (gives : Gives reader known) (filled : ∀ value, known value → keeps (fill value)) :
    Gives (reader >>= fun value => pure (fill value)) keeps :=
  gives.bind fun value given => .pure (filled value given)

namespace GroupKey

/-- The material of a group key fits. -/
theorem gives_fits (limit : Nat) :
    Gives (shape.read limit) fun key => Material.Fits limit 1 key.key := by
  refine Shape.gives_read (fun depth found => ∀ key ∈ found.key, Material.Fits depth 0 key)
    (fun depth => nofun) (fun depth field member found known => ?_)
    (fun depth below found record known made => ?_)
  · simp only [shape, List.mem_cons, List.not_mem_nil, or_false] at member
    rcases member with rfl | rfl | rfl | rfl
    · exact gives_fill (.anything _) fun _ _ => known
    · exact gives_fill (.anything _) fun _ _ => known
    · exact gives_fill (.anything _) fun _ _ => known
    · refine gives_fill (Value.gives_orderly depth) fun value orderly => ?_
      rintro _ ⟨⟩
      exact orderly.fits
  · obtain ⟨k, -, made⟩ := bind_eq_ok.mp made
    obtain ⟨l, -, made⟩ := bind_eq_ok.mp made
    obtain ⟨keySize, -, made⟩ := bind_eq_ok.mp made
    obtain ⟨key, given, made⟩ := bind_eq_ok.mp made
    obtain rfl := Except.ok.inj made
    exact (known key (required_eq_ok.mp given)).within below

end GroupKey

namespace KeyShare

/-- The material of a key share is that of its fields. -/
theorem share_of_finish {found : Partial} {share : KeyShare} (made : found.finish = .ok share) :
    share.share ∈ found.share := by
  obtain ⟨id, -, made⟩ := bind_eq_ok.mp made
  obtain ⟨material, given, made⟩ := bind_eq_ok.mp made
  obtain rfl := Except.ok.inj made
  exact required_eq_ok.mp given

/-- The material of a key share fits. -/
theorem gives_fits (limit : Nat) :
    Gives (shape.read limit) fun share => Material.Fits limit 1 share.share := by
  refine Shape.gives_read (fun depth found => ∀ share ∈ found.share, Material.Fits depth 0 share)
    (fun depth => nofun) (fun depth field member found known => ?_)
    (fun depth below found record known made => ?_)
  · simp only [shape, List.mem_cons, List.not_mem_nil, or_false] at member
    rcases member with rfl | rfl
    · exact gives_fill (.anything _) fun _ _ => known
    · refine gives_fill (Value.gives_orderly depth) fun value orderly => ?_
      rintro _ ⟨⟩
      exact orderly.fits
  · exact (known _ (share_of_finish made)).within below

/-- One more member is gathered as it is. -/
theorem keeps_gather {holds : Value → Prop} {found next : Partial} {member : String × Value}
    (known : ∀ share ∈ found.share, holds share) (given : holds member.2)
    (gathered : found.gather member = .ok next) : ∀ share ∈ next.share, holds share := by
  obtain ⟨key, value⟩ := member
  rw [Partial.gather] at gathered
  split at gathered
  · split at gathered
    · cases gathered
    · obtain ⟨id, -, gathered⟩ := bind_eq_ok.mp gathered
      obtain rfl := Except.ok.inj gathered
      exact known
  split at gathered
  · split at gathered
    · cases gathered
    · obtain rfl := Except.ok.inj gathered
      rintro _ ⟨⟩
      exact given
  · obtain rfl := Except.ok.inj gathered
    exact known

/-- The material of a key share among members is one of their values. -/
theorem keeps_ofMembers {holds : Value → Prop} {members : List (String × Value)} {share : KeyShare}
    (each : ∀ member ∈ members, holds member.2) (made : ofMembers members = .ok share) :
    holds share.share := by
  obtain ⟨found, gathered, finished⟩ := bind_eq_ok.mp made
  let keeps (found : Partial) : Prop := ∀ share ∈ found.share, holds share
  have start : keeps {} := nofun
  have step (state : Partial) (member : String × Value) (inside : member ∈ members) (next : Partial)
      (known : keeps state) : state.gather member = .ok next → keeps next :=
    keeps_gather known (each member inside)
  exact keeps_foldlM step start gathered _ (share_of_finish finished)

end KeyShare

namespace SignatureShare

/-- The material of a signature share fits. -/
theorem gives_fits (limit : Nat) :
    Gives (shape.read limit) fun share => Material.Fits limit 1 share.signature := by
  refine Shape.gives_read
    (fun depth found => ∀ signature ∈ found.signature, Material.Fits depth 0 signature)
    (fun depth => nofun) (fun depth field member found known => ?_)
    (fun depth below found record known made => ?_)
  · simp only [shape, List.mem_cons, List.not_mem_nil, or_false] at member
    rcases member with rfl | rfl
    · exact gives_fill (.anything _) fun _ _ => known
    · refine gives_fill (Value.gives_orderly depth) fun value orderly => ?_
      rintro _ ⟨⟩
      exact orderly.fits
  · obtain ⟨id, -, made⟩ := bind_eq_ok.mp made
    obtain ⟨signature, given, made⟩ := bind_eq_ok.mp made
    obtain rfl := Except.ok.inj made
    exact (known signature (required_eq_ok.mp given)).within below

end SignatureShare

namespace DealtKeys

/-- The material of dealt keys fits. -/
theorem gives_fits (limit : Nat) :
    Gives (shape.read limit) fun keys => Material.Fits limit 2 keys.groupKey.key ∧
      ∀ share ∈ keys.shares, Material.Fits limit 3 share.share := by
  refine Shape.gives_read
    (fun depth found => (∀ key ∈ found.groupKey, Material.Fits depth 1 key.key) ∧
      ∀ shares ∈ found.shares, ∀ share ∈ shares, Material.Fits depth 2 share.share)
    (fun depth => ⟨nofun, nofun⟩) (fun depth field member found known => ?_)
    (fun depth below found record known made => ?_)
  · simp only [shape, List.mem_cons, List.not_mem_nil, or_false] at member
    rcases member with rfl | rfl
    · refine gives_fill (GroupKey.gives_fits depth) fun key fits => ⟨?_, known.2⟩
      rintro _ ⟨⟩
      exact fits
    · have each (inner : Nat) (below : inner < depth) := (KeyShare.gives_fits inner).weaken
        fun share fits => Material.Fits.within fits below
      refine gives_fill (Reader.gives_list each) fun shares fits => ⟨known.1, ?_⟩
      rintro _ ⟨⟩
      exact fits
  · obtain ⟨key, given, made⟩ := bind_eq_ok.mp made
    obtain ⟨shares, listed, made⟩ := bind_eq_ok.mp made
    obtain rfl := Except.ok.inj made
    refine ⟨(known.1 key (required_eq_ok.mp given)).within below, fun share member => ?_⟩
    exact (known.2 shares (required_eq_ok.mp listed) share member).within below

end DealtKeys

namespace VerifyRequest

/-- The material of a request to verify fits. -/
theorem gives_fits (limit : Nat) :
    Gives (shape.read limit) fun request => Material.Fits limit 2 request.groupKey.key ∧
      ∀ share ∈ request.signatures, Material.Fits limit 3 share.signature := by
  refine Shape.gives_read
    (fun depth found => (∀ key ∈ found.groupKey, Material.Fits depth 1 key.key) ∧
      ∀ shares ∈ found.signatures, ∀ share ∈ shares, Material.Fits depth 2 share.signature)
    (fun depth => ⟨nofun, nofun⟩) (fun depth field member found known => ?_)
    (fun depth below found record known made => ?_)
  · simp only [shape, List.mem_cons, List.not_mem_nil, or_false] at member
    rcases member with rfl | rfl | rfl
    · refine gives_fill (GroupKey.gives_fits depth) fun key fits => ⟨?_, known.2⟩
      rintro _ ⟨⟩
      exact fits
    · have each (inner : Nat) (below : inner < depth) := (SignatureShare.gives_fits inner).weaken
        fun share fits => Material.Fits.within fits below
      refine gives_fill (Reader.gives_list each) fun shares fits => ⟨known.1, ?_⟩
      rintro _ ⟨⟩
      exact fits
    · exact gives_fill (.anything _) fun _ _ => known
  · obtain ⟨key, given, made⟩ := bind_eq_ok.mp made
    obtain ⟨shares, listed, made⟩ := bind_eq_ok.mp made
    obtain ⟨msg, -, made⟩ := bind_eq_ok.mp made
    obtain rfl := Except.ok.inj made
    refine ⟨(known.1 key (required_eq_ok.mp given)).within below, fun share member => ?_⟩
    exact (known.2 shares (required_eq_ok.mp listed) share member).within below

end VerifyRequest

namespace SignRequest

/-- The material of a request to sign fits. -/
theorem gives_fits (limit : Nat) :
    Gives (read limit) fun request => Material.Fits limit 1 request.share.share := by
  refine .behind fun next => ?_
  split
  · exact .fail _
  · refine Reader.gives_deeper fun depth below => ?_
    have step (key : String) (found : Partial)
        (known : ∀ other ∈ found.others, Material.Fits depth 0 other.2) :
        Gives (member depth key found) fun found =>
          ∀ other ∈ found.others, Material.Fits depth 0 other.2 := by
      unfold member
      split
      · split
        · exact Reader.gives_closeAndFail _
        · exact .behind fun _ => gives_fill (.anything _) fun _ _ => known
      · refine .behind fun _ => gives_fill (Value.gives_orderly depth) fun value orderly => ?_
        exact List.forall_mem_cons.mpr ⟨orderly.fits, known⟩
    refine (Reader.gives_object (by simp) step).bind fun found known => ?_
    split
    · next request made =>
      obtain ⟨msg, -, made⟩ := bind_eq_ok.mp made
      obtain ⟨share, gathered, made⟩ := bind_eq_ok.mp made
      obtain rfl := Except.ok.inj made
      refine .pure (Material.Fits.within (KeyShare.keeps_ofMembers ?_ gathered) below)
      exact fun other inside => known other (List.mem_reverse.mp inside)
    · exact .fail _
  · exact Reader.gives_mistyped _

end SignRequest

/-- A truth value is read as it was printed. -/
theorem Json.Reader.reads_bool (value : Bool) : Reads Reader.bool (printBool value) value := by
  cases value with
  | true =>
    exact ⟨⟨'t', _, rfl, rfl⟩, fun rest _ => (Yields.nextAfterBlanks? (by decide) _).bind
      ((Yields.advance 't' _).bind ((Yields.word ['r', 'u', 'e'] rest).bind (.pure true rest)))⟩
  | false =>
    exact ⟨⟨'f', _, rfl, rfl⟩, fun rest _ => (Yields.nextAfterBlanks? (by decide) _).bind
      ((Yields.advance 'f' _).bind
        ((Yields.word ['a', 'l', 's', 'e'] rest).bind (.pure false rest)))⟩

/-- A verdict is read as it was printed. -/
theorem VerifyResponse.reads_print (response : VerifyResponse) (depth : Nat) :
    Reads (shape.read (depth + 1)) response.print response := by
  have member (rest : List Char) (closed : Closed rest) :
      Yields (shape.member depth "valid" none) (':' :: printBool response.valid ++ rest)
        (some response.valid) rest := by
    refine Shape.yields_member rfl rfl (fun rest closed => ?_) rest closed
    exact ((Reader.reads_bool response.valid).yields rest closed).bind (.pure _ rest)
  exact Shape.reads_object (.cons member (.nil _)) rfl

namespace PayloadKind

/-- All material inside a payload fits. -/
def Fits (kind : PayloadKind) (limit : Nat) (value : kind.Carrier) : Prop :=
  ∀ held ∈ kind.materials value, Material.Fits limit held.1 held.2

/-- The material of a payload that is read fits. -/
theorem gives_fits (kind : PayloadKind) (limit : Nat) : Gives (kind.reader limit) (kind.Fits limit) := by
  cases kind with
  | dealRequest => exact (Gives.anything _).weaken fun _ _ => List.forall_mem_nil _
  | dealResponse =>
    refine (DealtKeys.gives_fits limit).weaken fun keys fits => ?_
    exact List.forall_mem_cons.mpr ⟨fits.1, List.forall_mem_map.mpr fits.2⟩
  | signRequest =>
    exact (SignRequest.gives_fits limit).weaken fun request fits => List.forall_mem_singleton.mpr fits
  | verifyRequest =>
    refine (VerifyRequest.gives_fits limit).weaken fun request fits => ?_
    exact List.forall_mem_cons.mpr ⟨fits.1, List.forall_mem_map.mpr fits.2⟩
  | verifyResponse => exact (Gives.anything _).weaken fun _ _ => List.forall_mem_nil _
  | groupKey =>
    exact (GroupKey.gives_fits limit).weaken fun key fits => List.forall_mem_singleton.mpr fits
  | keyShare =>
    exact (KeyShare.gives_fits limit).weaken fun share fits => List.forall_mem_singleton.mpr fits
  | signatureShare =>
    exact (SignatureShare.gives_fits limit).weaken fun share fits => List.forall_mem_singleton.mpr fits
  | material =>
    exact (Value.gives_orderly limit).weaken fun value orderly =>
      List.forall_mem_singleton.mpr orderly.fits

/-- A payload whose material fits is read as it was printed, unless a double is in the material. -/
theorem reads_print (kind : PayloadKind) {value : kind.Carrier} (fits : kind.Fits depthLimit value)
    (whole : kind.IsWhole value) : Reads (kind.reader depthLimit) (kind.print value) value := by
  have exact (held : Nat × Material) (inside : held ∈ kind.materials value) : Value.Exact held.2 :=
    (fits held inside).exact (whole held inside)
  have shallow (held : Nat × Material) (inside : held ∈ kind.materials value) :
      Value.depth held.2 + held.1 ≤ depthLimit := (fits held inside).shallow
  cases kind with
  | dealRequest => exact DealRequest.reads_isObjectOf (isObjectOf_printObject _)
  | dealResponse =>
    obtain ⟨exact_key, exact_shares⟩ := List.forall_mem_cons.mp exact
    obtain ⟨shallow_key, shallow_shares⟩ := List.forall_mem_cons.mp shallow
    have key : Reads (GroupKey.shape.read 126) value.groupKey.print value.groupKey :=
      GroupKey.reads_isObjectOf exact_key (Nat.le_of_add_le_add_right shallow_key)
        (isObjectOf_printObject _)
    have shares : List.Forall₂ (Reads (KeyShare.shape.read 125)) (value.shares.map KeyShare.print)
        value.shares :=
      forall₂_reads_map fun share inside text => KeyShare.reads_isObjectOf
        (List.forall_mem_map.mp exact_shares share inside)
        (Nat.le_of_add_le_add_right (List.forall_mem_map.mp shallow_shares share inside))
    exact DealtKeys.reads_isObjectOf key shares (isObjectOf_printObject _)
  | signRequest =>
    have inside := List.mem_singleton_self (1, value.share.share)
    exact SignRequest.reads_isObjectOf (exact _ inside) (Nat.le_of_succ_le_succ (shallow _ inside))
      ⟨_, List.perm_append_singleton _ _, rfl⟩
  | verifyRequest =>
    obtain ⟨exact_key, exact_shares⟩ := List.forall_mem_cons.mp exact
    obtain ⟨shallow_key, shallow_shares⟩ := List.forall_mem_cons.mp shallow
    have key : Reads (GroupKey.shape.read 126) value.groupKey.print value.groupKey :=
      GroupKey.reads_isObjectOf exact_key (Nat.le_of_add_le_add_right shallow_key)
        (isObjectOf_printObject _)
    have shares : List.Forall₂ (Reads (SignatureShare.shape.read 125))
        (value.signatures.map SignatureShare.print) value.signatures :=
      forall₂_reads_map fun share inside text => SignatureShare.reads_isObjectOf
        (List.forall_mem_map.mp exact_shares share inside)
        (Nat.le_of_add_le_add_right (List.forall_mem_map.mp shallow_shares share inside))
    exact VerifyRequest.reads_isObjectOf key shares (isObjectOf_printObject _)
  | verifyResponse => exact VerifyResponse.reads_print value _
  | groupKey =>
    have inside := List.mem_singleton_self (1, value.key)
    exact GroupKey.reads_isObjectOf (exact _ inside) (Nat.le_of_succ_le_succ (shallow _ inside))
      (isObjectOf_printObject _)
  | keyShare =>
    have inside := List.mem_singleton_self (1, value.share)
    exact KeyShare.reads_isObjectOf (exact _ inside) (Nat.le_of_succ_le_succ (shallow _ inside))
      (isObjectOf_printObject _)
  | signatureShare =>
    have inside := List.mem_singleton_self (1, value.signature)
    exact SignatureShare.reads_isObjectOf (exact _ inside) (Nat.le_of_succ_le_succ (shallow _ inside))
      (isObjectOf_printObject _)
  | material =>
    have inside := List.mem_singleton_self (0, value)
    exact Value.reads_print depthLimit value (exact _ inside) (shallow _ inside)

/-- What is read off a text is read off its own text again, unless a double is in its material. -/
theorem parse_render {kind : PayloadKind} {text : String} {value : kind.Carrier}
    (parsed : kind.parse text = .ok value) (whole : kind.IsWhole value) :
    kind.parse (kind.render value) = .ok value :=
  (kind.reads_print ((kind.gives_fits depthLimit).run parsed) whole).run

/-- Printing again what a text is read as leaves the text that is printed first. -/
theorem reencodeTimes_render {kind : PayloadKind} {value : kind.Carrier}
    (again : kind.parse (kind.render value) = .ok value) (count : Nat) :
    kind.reencodeTimes count (kind.render value) = .ok (kind.render value) := by
  have once : kind.reencode (kind.render value) = .ok (kind.render value) :=
    bind_eq_ok.mpr ⟨value, again, rfl⟩
  induction count with
  | zero => rfl
  | succ count ih => exact bind_eq_ok.mpr ⟨_, once, ih⟩

/-- Every integer that a word holds, signed or not, is a number whose text is its decimals. -/
theorem exists_number {n : Int} (above : -2 ^ 63 ≤ n) (below : n < 2 ^ 64) :
    ∃ number : Number, number.toInt? = some n ∧ Value.render (.number number) = toString n := by
  cases n with
  | ofNat n =>
    have same : (UInt64.ofNat n).toNat = n := UInt64.toNat_ofNat_of_lt' (Int.ofNat_lt.mp below)
    refine ⟨.natural (UInt64.ofNat n), congrArg (fun n : Nat => some (n : Int)) same, ?_⟩
    exact congrArg (fun n => String.ofList (Numeral.decimal n)) same
  | negSucc n =>
    have small : n < halfWordCount := by
      simp only [halfWordCount]
      omega
    refine ⟨.negative ⟨n, small⟩, ?_, ?_⟩
    · show some (-(n : Int) - 1) = some (Int.negSucc n)
      rw [Int.negSucc_eq, Int.neg_add, Int.sub_eq_add_neg]
    · show String.ofList (['-'] ++ Nat.toDigits 10 (n + 1)) = _
      rw [String.ofList_append]
      rfl

/-- Payloads have a normal form. What any text is read as is read again off the text printed for it,
however often it is printed and read, unless a double is in its material. Every integer from `-2 ^ 63`
up to `2 ^ 64 - 1` and every string is a value of material that its own text is read as. -/
theorem normal_form :
    (∀ (kind : PayloadKind) (text : String) (value : kind.Carrier),
      kind.parse text = .ok value → kind.IsWhole value →
        kind.parse (kind.render value) = .ok value ∧
        ∀ count, kind.reencodeTimes (count + 1) text = .ok (kind.render value)) ∧
    (∀ n : Int, -2 ^ 63 ≤ n → n < 2 ^ 64 →
      ∃ number : Number, number.toInt? = some n ∧ material.render (.number number) = toString n ∧
        material.parse (toString n) = .ok (.number number)) ∧
    ∀ string : String, material.parse (material.render (.text string)) = .ok (.text string) := by
  refine ⟨fun kind text value parsed whole => ?_, fun n above below => ?_, fun string => ?_⟩
  · have again := parse_render parsed whole
    refine ⟨again, fun count => bind_eq_ok.mpr ⟨kind.render value, ?_, ?_⟩⟩
    · exact bind_eq_ok.mpr ⟨value, parsed, rfl⟩
    · exact reencodeTimes_render again count
  · obtain ⟨number, same, printed⟩ := exists_number above below
    refine ⟨number, same, printed, ?_⟩
    rw [← printed]
    have whole : number.toInt?.isSome := by rw [same]; rfl
    exact (Value.reads_print depthLimit (.number number) whole (Nat.zero_le _)).run
  · exact (Value.reads_print depthLimit (.text string) trivial (Nat.zero_le _)).run

/-- A group key with blanks, an unknown member, its members in another order, escapes, and a key
twice in its material. -/
def looseText : String :=
  "\t\x7b\"unknown\" : 1.5e3 ,\"key\":\x7b\"b\":0,\"\\u00e9\":\"\\ud83d\\ude00\\/\"," ++
  "\"b\":[-9223372036854775808,18446744073709551615]\x7d ,\"key-size\":512,\n\"l\":2,\"k\":1\x7d "

/-- The group key of the loose text. -/
def looseKey : GroupKey where
  k := 1
  l := 2
  keySize := 512
  key := .object
    [("b", .array [.number (.negative (Fin.last _)), .number (.natural 18446744073709551615)]),
      ("é", .text "😀/")]

/-- The group key of the loose text is printed without blanks, unknown members and escapes, in the
order of its fields and keys, and so it stays. -/
theorem normal_form_looseText :
    groupKey.parse looseText = .ok looseKey ∧
      groupKey.parse (groupKey.render looseKey) = .ok looseKey ∧
      groupKey.reencodeTimes 3 looseText = .ok (
        "\x7b\"k\":1,\"l\":2,\"key-size\":512,\"key\":\x7b\"b\":[-9223372036854775808," ++
        "18446744073709551615],\"é\":\"😀/\"\x7d\x7d") := by
  have parsed : groupKey.parse looseText = .ok looseKey := by cbv
  have whole : groupKey.IsWhole looseKey :=
    List.forall_mem_singleton.mpr ⟨⟨rfl, rfl, trivial⟩, trivial, trivial⟩
  obtain ⟨again, times⟩ := normal_form.1 groupKey looseText looseKey parsed whole
  refine ⟨parsed, again, (times 2).trans (congrArg Except.ok ?_)⟩
  decide +kernel

end PayloadKind

end ThresholdDaemon
