import Mathlib.Data.List.Permutation
import ThresholdDaemon.Payload.Print
import ThresholdDaemon.Payload.Read
import ThresholdDaemon.Proofs.Json.Convert
import ThresholdDaemon.Proofs.Json.Reads

/-!
# Payloads are read as they were printed

Every payload is read from its members in any order, whatever else is known of the texts of the
members than that they are read as its fields. Material may take up the levels of nesting that the
payload around it leaves.
-/
namespace ThresholdDaemon

open Json

/-- A value that is known once its key has been seen. -/
def seenAt {α : Type} (seen : List String) (key : String) (value : α) : Option α :=
  if key ∈ seen then some value else none

/-- A key that has just been seen makes its own value known. -/
@[simp] theorem seenAt_cons {α : Type} (key other : String) (seen : List String) (value : α) :
    seenAt (other :: seen) key value = if key = other then some value else seenAt seen key value := by
  unfold seenAt
  by_cases same : key = other <;> simp [same]

/-- A key that has not been seen leaves its value unknown. -/
theorem seenAt_of_notMem {α : Type} {seen : List String} {key : String} (unseen : key ∉ seen)
    (value : α) : seenAt seen key value = none := if_neg unseen

/-- A key that has been seen makes its value known. -/
theorem seenAt_of_mem {α : Type} {seen : List String} {key : String} (known : key ∈ seen)
    (value : α) : seenAt seen key value = some value := if_pos known

/-- A text is an object of some members in any order. -/
def Json.IsObjectOf (members : List (String × List Char)) (text : List Char) : Prop :=
  ∃ arranged : List (String × List Char), arranged.Perm members ∧ text = printObject arranged

/-- Members as they stand make an object. -/
theorem Json.isObjectOf_printObject (members : List (String × List Char)) :
    IsObjectOf members (printObject members) := ⟨members, .refl members, rfl⟩

/-- A record is read from an object of its members. -/
theorem Json.Shape.Gathered.reads_isObjectOf {ρ α : Type} {shape : Shape ρ α} {depth : Nat}
    {members : List (String × List Char)} {known : List String → ρ} {record : α}
    (gathered : shape.Gathered depth members known record) (apart : (members.map Prod.fst).Nodup)
    {text : List Char} (object : IsObjectOf members text) :
    Reads (shape.read (depth + 1)) text record := by
  obtain ⟨arranged, order, rfl⟩ := object
  exact gathered.reads apart order

/-- Values that are read from their objects are read from one object each. -/
theorem Json.forall₂_reads {α : Type} {reader : Reader α} {members : α → List (String × List Char)}
    {texts : List (List Char)} {values : List α}
    (each : ∀ value ∈ values, ∀ text, IsObjectOf (members value) text → Reads reader text value)
    (objects : List.Forall₂ (fun text value => IsObjectOf (members value) text) texts values) :
    List.Forall₂ (Reads reader) texts values := by
  induction objects with
  | nil => exact .nil
  | @cons text value texts values one _ ih =>
    obtain ⟨first, others⟩ := List.forall_mem_cons.mp each
    exact .cons (first text one) (ih others)

/-- Values that are read from their objects are read as they were printed. -/
theorem Json.forall₂_reads_map {α : Type} {reader : Reader α}
    {members : α → List (String × List Char)} {values : List α}
    (each : ∀ value ∈ values, ∀ text, IsObjectOf (members value) text → Reads reader text value) :
    List.Forall₂ (Reads reader) (values.map fun value => printObject (members value)) values := by
  rw [List.forall₂_map_left_iff, List.forall₂_same]
  exact fun value inside => each value inside _ (isObjectOf_printObject _)

namespace GroupKey

/-- The members of a group key. -/
def members (key : GroupKey) : List (String × List Char) :=
  [("k", printWord key.k), ("l", printWord key.l),
    ("key-size", Numeral.decimal key.keySize.toNat), ("key", key.key.print)]

/-- What is gathered of a group key once some keys have been seen. -/
def known (key : GroupKey) (seen : List String) : Partial where
  k := seenAt seen "k" key.k
  l := seenAt seen "l" key.l
  keySize := seenAt seen "key-size" key.keySize
  key := seenAt seen "key" key.key

/-- A group key is read from an object of its members. -/
theorem reads_isObjectOf {key : GroupKey} {depth : Nat} (exact : key.key.Exact)
    (shallow : key.key.depth ≤ depth) {text : List Char} (object : IsObjectOf key.members text) :
    Reads (shape.read (depth + 1)) text key := by
  have gathered : shape.Gathered depth key.members key.known key := by
    refine ⟨rfl, fun name text member seen unseen => ?_, fun seen all => ?_⟩
    · have absent {α : Type} (value : α) := seenAt_of_notMem unseen value
      simp only [members, List.mem_cons, List.not_mem_nil, or_false, Prod.mk.injEq] at member
      rcases member with ⟨rfl, rfl⟩ | ⟨rfl, rfl⟩ | ⟨rfl, rfl⟩ | ⟨rfl, rfl⟩
      · exact Shape.exists_field rfl (by simp [known, absent]) (Reader.reads_count key.k) rfl
          (by simp [known])
      · exact Shape.exists_field rfl (by simp [known, absent]) (Reader.reads_count key.l) rfl
          (by simp [known])
      · exact Shape.exists_field rfl (by simp [known, absent]) (Reader.reads_word32 key.keySize) rfl
          (by simp [known])
      · exact Shape.exists_field rfl (by simp [known, absent])
          (Value.reads_print depth key.key exact shallow) rfl (by simp [known])
    · simp only [members, List.map_cons, List.map_nil, List.forall_mem_cons] at all
      obtain ⟨k, l, keySize, material, -⟩ := all
      simp only [shape, known, seenAt_of_mem k, seenAt_of_mem l, seenAt_of_mem keySize,
        seenAt_of_mem material, required]
      rfl
  exact gathered.reads_isObjectOf (by simp [members]) object

end GroupKey

namespace KeyShare

/-- What is gathered of a key share once some keys have been seen. -/
def known (share : KeyShare) (seen : List String) : Partial where
  id := seenAt seen "id" share.id
  share := seenAt seen "share" share.share

/-- A key share is read from an object of its members. -/
theorem reads_isObjectOf {share : KeyShare} {depth : Nat} (exact : share.share.Exact)
    (shallow : share.share.depth ≤ depth) {text : List Char}
    (object : IsObjectOf share.members text) : Reads (shape.read (depth + 1)) text share := by
  have gathered : shape.Gathered depth share.members share.known share := by
    refine ⟨rfl, fun name text member seen unseen => ?_, fun seen all => ?_⟩
    · have absent {α : Type} (value : α) := seenAt_of_notMem unseen value
      simp only [members, List.mem_cons, List.not_mem_nil, or_false, Prod.mk.injEq] at member
      rcases member with ⟨rfl, rfl⟩ | ⟨rfl, rfl⟩
      · exact Shape.exists_field rfl (by simp [known, absent]) (Reader.reads_word64 share.id) rfl
          (by simp [known])
      · exact Shape.exists_field rfl (by simp [known, absent])
          (Value.reads_print depth share.share exact shallow) rfl (by simp [known])
    · simp only [members, List.map_cons, List.map_nil, List.forall_mem_cons] at all
      obtain ⟨id, material, -⟩ := all
      simp only [shape, known, seenAt_of_mem id, seenAt_of_mem material, required, Partial.finish]
      rfl
  exact gathered.reads_isObjectOf (by simp [members]) object

end KeyShare

namespace SignatureShare

/-- The members of a signature share. -/
def members (share : SignatureShare) : List (String × List Char) :=
  [("id", printWord share.id), ("signature", share.signature.print)]

/-- What is gathered of a signature share once some keys have been seen. -/
def known (share : SignatureShare) (seen : List String) : Partial where
  id := seenAt seen "id" share.id
  signature := seenAt seen "signature" share.signature

/-- A signature share is read from an object of its members. -/
theorem reads_isObjectOf {share : SignatureShare} {depth : Nat} (exact : share.signature.Exact)
    (shallow : share.signature.depth ≤ depth) {text : List Char}
    (object : IsObjectOf share.members text) : Reads (shape.read (depth + 1)) text share := by
  have gathered : shape.Gathered depth share.members share.known share := by
    refine ⟨rfl, fun name text member seen unseen => ?_, fun seen all => ?_⟩
    · have absent {α : Type} (value : α) := seenAt_of_notMem unseen value
      simp only [members, List.mem_cons, List.not_mem_nil, or_false, Prod.mk.injEq] at member
      rcases member with ⟨rfl, rfl⟩ | ⟨rfl, rfl⟩
      · exact Shape.exists_field rfl (by simp [known, absent]) (Reader.reads_word64 share.id) rfl
          (by simp [known])
      · exact Shape.exists_field rfl (by simp [known, absent])
          (Value.reads_print depth share.signature exact shallow) rfl (by simp [known])
    · simp only [members, List.map_cons, List.map_nil, List.forall_mem_cons] at all
      obtain ⟨id, material, -⟩ := all
      simp only [shape, known, seenAt_of_mem id, seenAt_of_mem material, required]
      rfl
  exact gathered.reads_isObjectOf (by simp [members]) object

end SignatureShare

namespace DealtKeys

/-- What is gathered of dealt keys once some keys have been seen. -/
def known (keys : DealtKeys) (seen : List String) : Partial where
  groupKey := seenAt seen "group-key" keys.groupKey
  shares := seenAt seen "shares" keys.shares

/-- Dealt keys are read from an object of their members. -/
theorem reads_isObjectOf {keys : DealtKeys} {depth : Nat} {key : List Char}
    {shares : List (List Char)} (key_reads : Reads (GroupKey.shape.read (depth + 1)) key keys.groupKey)
    (shares_read : List.Forall₂ (Reads (KeyShare.shape.read depth)) shares keys.shares)
    {text : List Char}
    (object : IsObjectOf [("group-key", key), ("shares", printArray shares)] text) :
    Reads (shape.read (depth + 2)) text keys := by
  have gathered : shape.Gathered (depth + 1) [("group-key", key), ("shares", printArray shares)]
      keys.known keys := by
    refine ⟨rfl, fun name text member seen unseen => ?_, fun seen all => ?_⟩
    · have absent {α : Type} (value : α) := seenAt_of_notMem unseen value
      simp only [List.mem_cons, List.not_mem_nil, or_false, Prod.mk.injEq] at member
      rcases member with ⟨rfl, rfl⟩ | ⟨rfl, rfl⟩
      · exact Shape.exists_field rfl (by simp [known, absent]) key_reads rfl (by simp [known])
      · exact Shape.exists_field rfl (by simp [known, absent]) (Reader.reads_list shares_read) rfl
          (by simp [known])
    · simp only [List.map_cons, List.map_nil, List.forall_mem_cons] at all
      obtain ⟨groupKey, list, -⟩ := all
      simp only [shape, known, seenAt_of_mem groupKey, seenAt_of_mem list, required]
      rfl
  exact gathered.reads_isObjectOf (by simp) object

end DealtKeys

namespace DealRequest

/-- The members of a request to deal. -/
def members (request : DealRequest) : List (String × List Char) :=
  [("key-size", Numeral.decimal request.keySize.toNat), ("l", printWord request.l),
    ("k", printWord request.k)]

/-- What is gathered of a request to deal once some keys have been seen. -/
def known (request : DealRequest) (seen : List String) : Partial where
  keySize := seenAt seen "key-size" request.keySize
  l := seenAt seen "l" request.l
  k := seenAt seen "k" request.k

/-- A request to deal is read from an object of its members. -/
theorem reads_isObjectOf {request : DealRequest} {depth : Nat} {text : List Char}
    (object : IsObjectOf request.members text) : Reads (shape.read (depth + 1)) text request := by
  have gathered : shape.Gathered depth request.members request.known request := by
    refine ⟨rfl, fun name text member seen unseen => ?_, fun seen all => ?_⟩
    · have absent {α : Type} (value : α) := seenAt_of_notMem unseen value
      simp only [members, List.mem_cons, List.not_mem_nil, or_false, Prod.mk.injEq] at member
      rcases member with ⟨rfl, rfl⟩ | ⟨rfl, rfl⟩ | ⟨rfl, rfl⟩
      · exact Shape.exists_field rfl (by simp [known, absent])
          (Reader.reads_word32 request.keySize) rfl (by simp [known])
      · exact Shape.exists_field rfl (by simp [known, absent]) (Reader.reads_count request.l) rfl
          (by simp [known])
      · exact Shape.exists_field rfl (by simp [known, absent]) (Reader.reads_count request.k) rfl
          (by simp [known])
    · simp only [members, List.map_cons, List.map_nil, List.forall_mem_cons] at all
      obtain ⟨keySize, l, k, -⟩ := all
      simp only [shape, known, seenAt_of_mem keySize, seenAt_of_mem l, seenAt_of_mem k, required]
      rfl
  exact gathered.reads_isObjectOf (by simp [members]) object

end DealRequest

namespace VerifyRequest

/-- What is gathered of a request to verify once some keys have been seen. -/
def known (request : VerifyRequest) (seen : List String) : Partial where
  groupKey := seenAt seen "group-key" request.groupKey
  signatures := seenAt seen "signatures" request.signatures
  msg := seenAt seen "msg" request.msg

/-- A request to verify is read from an object of its members. -/
theorem reads_isObjectOf {request : VerifyRequest} {depth : Nat} {key : List Char}
    {shares : List (List Char)}
    (key_reads : Reads (GroupKey.shape.read (depth + 1)) key request.groupKey)
    (shares_read : List.Forall₂ (Reads (SignatureShare.shape.read depth)) shares request.signatures)
    {text : List Char}
    (object : IsObjectOf [("group-key", key), ("signatures", printArray shares),
      ("msg", Literal.print request.msg)] text) :
    Reads (shape.read (depth + 2)) text request := by
  have gathered : shape.Gathered (depth + 1) [("group-key", key), ("signatures", printArray shares),
      ("msg", Literal.print request.msg)] request.known request := by
    refine ⟨rfl, fun name text member seen unseen => ?_, fun seen all => ?_⟩
    · have absent {α : Type} (value : α) := seenAt_of_notMem unseen value
      simp only [List.mem_cons, List.not_mem_nil, or_false, Prod.mk.injEq] at member
      rcases member with ⟨rfl, rfl⟩ | ⟨rfl, rfl⟩ | ⟨rfl, rfl⟩
      · exact Shape.exists_field rfl (by simp [known, absent]) key_reads rfl (by simp [known])
      · exact Shape.exists_field rfl (by simp [known, absent]) (Reader.reads_list shares_read) rfl
          (by simp [known])
      · exact Shape.exists_field rfl (by simp [known, absent]) (Reader.reads_text request.msg) rfl
          (by simp [known])
    · simp only [List.map_cons, List.map_nil, List.forall_mem_cons] at all
      obtain ⟨groupKey, signatures, msg, -⟩ := all
      simp only [shape, known, seenAt_of_mem groupKey, seenAt_of_mem signatures, seenAt_of_mem msg,
        required]
      rfl
  exact gathered.reads_isObjectOf (by simp) object

end VerifyRequest

namespace SignRequest

/-- The message is gathered from its member. -/
theorem yields_msg (depth : Nat) {found : Partial} (absent : found.msg = none) (msg : String)
    (rest : List Char) (closed : Closed rest) :
    Yields (member depth "msg" found) (':' :: Literal.print msg ++ rest)
      { found with msg := some msg } rest := by
  unfold member
  rw [if_pos rfl, absent]
  exact (Reader.yields_colon _).bind (((Reader.reads_text msg).yields rest closed).bind (.pure _ rest))

/-- A value is gathered from any other member. -/
theorem yields_other {depth : Nat} {key : String} (other : key ≠ "msg") {text : List Char}
    {value : Value} (read : Reads (Reader.value depth) text value) (found : Partial)
    (rest : List Char) (closed : Closed rest) :
    Yields (member depth key found) (':' :: text ++ rest)
      { found with others := (key, value) :: found.others } rest := by
  unfold member
  rw [if_neg other]
  exact (Reader.yields_colon _).bind ((read.yields rest closed).bind (.pure _ rest))

/-- Whatever makes the request of what is gathered reads the request from an object. -/
theorem reads_printObject {depth : Nat} {printed : List (String × List Char)} {found : Partial}
    {request : SignRequest} (gathers : Reader.Gathers (member depth) printed {} found)
    (finished : found.finish = .ok request) :
    Reads (read (depth + 1)) (printObject printed) request := by
  refine ⟨opens_printObject _, fun rest _ => ?_⟩
  refine (Yields.nextAfterBlanks? (by decide) _).bind ?_
  refine (Reader.yields_object gathers rest).bind ?_
  rw [finished]
  exact .pure request rest

/-- A request to sign is read from an object of the members of its share and a message. -/
theorem reads_isObjectOf {request : SignRequest} {depth : Nat} (exact : request.share.share.Exact)
    (shallow : request.share.share.depth ≤ depth) {text : List Char}
    (object : IsObjectOf (("msg", Literal.print request.msg) :: request.share.members) text) :
    Reads (read (depth + 1)) text request := by
  obtain ⟨arranged, order, rfl⟩ := object
  let number := Value.ofWord request.share.id
  have id : Reads (Reader.value depth) (printWord request.share.id) number :=
    Value.reads_print depth number rfl (Nat.zero_le depth)
  have share := Value.reads_print depth request.share.share exact shallow
  have first : KeyShare.Partial.gather {} ("id", number) = .ok { id := some request.share.id } := by
    rw [KeyShare.Partial.gather, Value.toWord64_ofWord]
    rfl
  have second : KeyShare.Partial.gather { share := some request.share.share } ("id", number) =
      .ok ⟨some request.share.id, some request.share.share⟩ := by
    rw [KeyShare.Partial.gather, Value.toWord64_ofWord]
    rfl
  have finished (others : List (String × Value))
      (either : others = [("share", request.share.share), ("id", number)] ∨
        others = [("id", number), ("share", request.share.share)]) :
      Partial.finish ⟨some request.msg, others⟩ = .ok request := by
    have made : KeyShare.ofMembers others.reverse = .ok request.share := by
      rcases either with rfl | rfl
      · show (List.foldlM KeyShare.Partial.gather {} [("id", number), _] >>= _) = _
        rw [List.foldlM_cons, first]
        rfl
      · show (List.foldlM KeyShare.Partial.gather { share := some request.share.share }
          [("id", number)] >>= _) = _
        rw [List.foldlM_cons, second]
        rfl
    show (KeyShare.ofMembers others.reverse >>= fun share =>
      pure (SignRequest.mk share request.msg)) = _
    rw [made]
    rfl
  have put_msg (found : Partial) (absent : found.msg = none) :=
    yields_msg depth absent request.msg
  have put_id := yields_other (by decide : "id" ≠ "msg") id
  have put_share := yields_other (by decide : "share" ≠ "msg") share
  have orders := List.mem_permutations'.mpr order
  simp only [KeyShare.members, List.permutations', List.permutations'Aux, List.flatMap_cons,
    List.flatMap_nil, List.map_cons, List.map_nil, List.cons_append, List.nil_append,
    List.append_nil, List.mem_cons, List.not_mem_nil, or_false] at orders
  rcases orders with rfl | rfl | rfl | rfl | rfl | rfl
  · exact reads_printObject (.cons (put_msg _ rfl) (.cons (put_id _) (.cons (put_share _) (.nil _))))
      (finished _ (.inl rfl))
  · exact reads_printObject (.cons (put_id _) (.cons (put_msg _ rfl) (.cons (put_share _) (.nil _))))
      (finished _ (.inl rfl))
  · exact reads_printObject (.cons (put_id _) (.cons (put_share _) (.cons (put_msg _ rfl) (.nil _))))
      (finished _ (.inl rfl))
  · exact reads_printObject (.cons (put_msg _ rfl) (.cons (put_share _) (.cons (put_id _) (.nil _))))
      (finished _ (.inr rfl))
  · exact reads_printObject (.cons (put_share _) (.cons (put_msg _ rfl) (.cons (put_id _) (.nil _))))
      (finished _ (.inr rfl))
  · exact reads_printObject (.cons (put_share _) (.cons (put_id _) (.cons (put_msg _ rfl) (.nil _))))
      (finished _ (.inr rfl))

end SignRequest

end ThresholdDaemon
