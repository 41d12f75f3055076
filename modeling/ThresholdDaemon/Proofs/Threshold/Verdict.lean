import ThresholdDaemon.Proofs.Dispatch.Verdict
import ThresholdDaemon.Proofs.Payload.Reads
import ThresholdDaemon.Proofs.Threshold.Sign

/-!
# Requests to verify are answered

Whatever a request to verify holds, it is answered by a verdict, with one exception: a group key
whose material has no coefficient at all has no degree, and the question how many shares it needs
panics. Such a key can be part of a request, and if the request has as many shares as it declares to
need, it gets no answer.
-/
namespace ThresholdDaemon.Threshold

open Dispatcher (judged verdictFrame)

variable {suite : Suite}

/-- What is settled without a panic is no panic. -/
theorem settled_ne_panics {α : Type} (result : Except ProviderError α) (text : String) :
    settled result ≠ .panics text := by
  cases result <;> simp [settled]

/-- Verification panics exactly if the public key is read and has no coefficient. -/
theorem verify_eq_panics_iff {groupKey : GroupKey} {shares : List SignatureShare} {msg : Bytes}
    {text : String} :
    verify suite groupKey shares msg = .panics text ↔
      commitmentOfValue suite groupKey.key = .ok [] ∧ text = underflowPanic := by
  have read : readMaterial .groupKey (commitmentOfValue suite) groupKey.key = .ok [] ↔ _ :=
    readMaterial_eq_ok
  rw [← read]
  unfold verify
  cases readMaterial .groupKey (commitmentOfValue suite) groupKey.key with
  | error error => simp
  | ok commitment =>
    cases commitment with
    | nil => simp [eq_comm]
    | cons coefficient rest => simp [settled_ne_panics]

/-- Too few shares are a verdict, and otherwise verification under the group key says what becomes of
a request that is read. -/
theorem reply_dispatch_verify (suite : Suite) (frameLimit : Nat) {text : String}
    {request : VerifyRequest}
    (read : (VerifyRequest.shape.read Json.depthLimit).run text = .ok request) (coins : Coins) :
    (((⟨provider suite, frameLimit⟩ : Dispatcher Coins).dispatch .verifyRequest
      (some text)).run coins).1.reply =
      if request.signatures.length < request.groupKey.k.toNat then .frame (verdictFrame false)
      else judged (verify suite request.groupKey request.signatures
        (Bytes.ofString request.msg)) := by
  rw [Dispatcher.dispatch_verifyRequest _ read, Dispatcher.reply_verify]
  rfl

/-- A request to verify has enough shares for what its group key declares, and no share could ever
be checked under the key, as it has no coefficient. -/
def HasEmptyKey (suite : Suite) (request : VerifyRequest) : Prop :=
  request.groupKey.k.toNat ≤ request.signatures.length ∧
    commitmentOfValue suite request.groupKey.key = .ok []

/-- A request to verify that can be read is answered by a verdict exactly if its group key has a
coefficient, cannot be read or declares more shares than there are; otherwise its handling panics.
So it never fails, and it is never passed over. -/
theorem dispatch_verify_answered_iff (suite : Suite) (frameLimit : Nat) {text : String}
    {request : VerifyRequest}
    (read : (VerifyRequest.shape.read Json.depthLimit).run text = .ok request) (coins : Coins) :
    let reply := (((⟨provider suite, frameLimit⟩ : Dispatcher Coins).dispatch .verifyRequest
      (some text)).run coins).1.reply
    ((∃ valid, reply = .frame (verdictFrame valid)) ↔ ¬ HasEmptyKey suite request) ∧
      (reply = .panicked underflowPanic ↔ HasEmptyKey suite request) := by
  intro reply
  have asked : reply = _ := reply_dispatch_verify suite frameLimit read coins
  by_cases few : request.signatures.length < request.groupKey.k.toNat
  · have ample : ¬ HasEmptyKey suite request := fun empty => Nat.not_le_of_lt few empty.1
    rw [asked, if_pos few]
    exact ⟨iff_of_true ⟨false, rfl⟩ ample, iff_of_false (by simp) ample⟩
  rw [asked, if_neg few]
  have enough := Nat.le_of_not_lt few
  by_cases empty : commitmentOfValue suite request.groupKey.key = .ok []
  · have panics : verify suite request.groupKey request.signatures (Bytes.ofString request.msg) =
        .panics underflowPanic := verify_eq_panics_iff.mpr ⟨empty, rfl⟩
    rw [panics]
    exact ⟨iff_of_false (by simp [judged]) (not_not.mpr ⟨enough, empty⟩),
      iff_of_true rfl ⟨enough, empty⟩⟩
  · have settles : ∀ text, verify suite request.groupKey request.signatures
        (Bytes.ofString request.msg) ≠ .panics text :=
      fun text panics => empty (verify_eq_panics_iff.mp panics).1
    have some_key : ¬ HasEmptyKey suite request := fun both => empty both.2
    obtain ⟨valid, verdict⟩ := Dispatcher.judged_eq_frame_iff.mpr settles
    rw [verdict]
    exact ⟨iff_of_true ⟨valid, rfl⟩ some_key, iff_of_false (by simp) some_key⟩

/-- A request to verify no shares at all under some material, which it declares to be enough. -/
def askingForNone (material : Material) : VerifyRequest := ⟨⟨0, 3, 512, material⟩, [], "m"⟩

/-- Such a request is read from its text if its material is. -/
theorem read_askingForNone {material : Material} (exact : material.Exact)
    (shallow : material.depth ≤ 125) :
    (VerifyRequest.shape.read Json.depthLimit).run
      (String.ofList (askingForNone material).print) = .ok (askingForNone material) := by
  have key := @GroupKey.reads_isObjectOf (askingForNone material).groupKey _ exact shallow _
    (Json.isObjectOf_printObject _)
  exact (VerifyRequest.reads_isObjectOf key .nil (Json.isObjectOf_printObject _)).run

/-- A public key without a coefficient is read from its material. -/
theorem commitmentOfValue_nil (suite : Suite) :
    commitmentOfValue suite (publicKeyValue suite []) = .ok [] := rfl

/-- Material without a coefficient is exact. -/
theorem exact_publicKeyValue_nil (suite : Suite) : (publicKeyValue suite []).Exact :=
  ⟨trivial, ⟨trivial, trivial, trivial⟩, trivial⟩

/-- A group key without a coefficient leaves a request without an answer, and one that cannot be
read does not. -/
theorem dispatch_verify_answered_iff_askingForNone :
    (((⟨provider curveSuite, 16384⟩ : Dispatcher Coins).dispatch .verifyRequest
      (some (String.ofList (askingForNone (publicKeyValue curveSuite [])).print))).run
        fun _ => 0).1.reply = .panicked underflowPanic ∧
    ∃ valid, (((⟨provider curveSuite, 16384⟩ : Dispatcher Coins).dispatch .verifyRequest
      (some (String.ofList (askingForNone .null).print))).run fun _ => 0).1.reply =
        .frame (verdictFrame valid) := by
  have empty := dispatch_verify_answered_iff curveSuite 16384
    (read_askingForNone (exact_publicKeyValue_nil curveSuite) (by decide)) fun _ => 0
  have unreadable := dispatch_verify_answered_iff curveSuite 16384
    (@read_askingForNone .null trivial (by decide)) fun _ => 0
  refine ⟨empty.2.mpr ⟨Nat.le_refl 0, commitmentOfValue_nil curveSuite⟩, unreadable.1.mpr ?_⟩
  rintro ⟨-, read⟩
  cases read

/-- Under the curve, not every request to verify that can be read is answered by a verdict. -/
theorem not_dispatch_verify_answered :
    ¬ ∀ (text : String) (request : VerifyRequest) (coins : Coins),
      (VerifyRequest.shape.read Json.depthLimit).run text = .ok request →
      ∃ valid, (((⟨provider curveSuite, 16384⟩ : Dispatcher Coins).dispatch .verifyRequest
        (some text)).run coins).1.reply = .frame (verdictFrame valid) := by
  intro always
  have read := read_askingForNone (exact_publicKeyValue_nil curveSuite) (by decide)
  obtain ⟨valid, answered⟩ := always _ _ (fun _ => 0) read
  let request := askingForNone (publicKeyValue curveSuite [])
  have enough : ¬ request.signatures.length < request.groupKey.k.toNat := Nat.lt_irrefl 0
  have panics : verify curveSuite request.groupKey request.signatures (Bytes.ofString request.msg) =
      .panics underflowPanic := verify_eq_panics_iff.mpr ⟨commitmentOfValue_nil curveSuite, rfl⟩
  rw [reply_dispatch_verify curveSuite 16384 read, if_neg enough, panics] at answered
  cases answered

end ThresholdDaemon.Threshold
