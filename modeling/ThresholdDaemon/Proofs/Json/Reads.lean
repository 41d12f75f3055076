import Mathlib.Data.List.Forall2
import ThresholdDaemon.Json.Print
import ThresholdDaemon.Json.Typed
import ThresholdDaemon.Proofs.Json.Literal
import ThresholdDaemon.Proofs.Json.Numeral

/-!
# Documents are read as they were printed

The elements of a printed array and the members of a printed object are read one after the other,
up to the bracket or brace that ends them. Whatever a reader makes of the members, it makes the same
of their printed texts. Exact values, whose nesting is within the limit, are read as they were
printed.
-/
namespace ThresholdDaemon.Json

variable {α ρ : Type}

/-- Texts with a comma in front of each. -/
def behindCommas (texts : List (List Char)) : List Char := texts.flatMap (',' :: ·)

/-- Commas stand in front of all texts but the first. -/
theorem separated_cons (one : List Char) (more : List (List Char)) :
    separated (one :: more) = one ++ behindCommas more := by
  induction more generalizing one with
  | nil => exact (List.append_nil one).symm
  | cons next more ih =>
    rw [separated, ih next]
    · rfl
    · simp

/-- There are no more texts than characters in them with their commas. -/
theorem length_le_behindCommas (texts : List (List Char)) :
    texts.length ≤ (behindCommas texts).length := by
  induction texts with
  | nil => exact Nat.le_refl _
  | cons text texts ih =>
    unfold behindCommas at ih ⊢
    rw [List.flatMap_cons, List.length_append, List.length_cons, List.length_cons]
    omega

/-- What may stand behind a value may also stand behind others with commas in front of them. -/
theorem Closed.behindCommas (texts : List (List Char)) {rest : List Char} (closed : Closed rest) :
    Closed (Json.behindCommas texts ++ rest) := by
  cases texts with
  | nil => exact closed
  | cons text texts => exact .comma _

namespace Reader

/-- A comma, unless this is the first. -/
def commaUnless (first : Bool) : List Char := if first then [] else [',']

/-- The end of an array shows that no element comes next. -/
theorem yields_anotherItem_end (first : Bool) (rest : List Char) :
    Yields (anotherItem first) (']' :: rest) false (']' :: rest) :=
  (Yields.nextAfterBlanks? (by decide) rest).bind (.pure false _)

/-- A value shows that an element comes next. -/
theorem yields_anotherItem (first : Bool) {c : Char} (opens : opensValue c = true)
    (rest : List Char) :
    Yields (anotherItem first) (commaUnless first ++ c :: rest) true (c :: rest) := by
  obtain ⟨visible, no_comma, no_bracket⟩ := opensValue_apart opens
  cases first with
  | true =>
    refine (Yields.nextAfterBlanks? visible rest).bind ?_
    simp only
    exact .pure true _
  | false =>
    refine (Yields.nextAfterBlanks? (by decide) (c :: rest)).bind ?_
    refine (Yields.advance ',' _).bind ((Yields.nextAfterBlanks? visible rest).bind ?_)
    simp only
    exact .pure true _

/-- An element is read, and then those behind it. -/
theorem yields_items_cons {item : Reader α} {text back rest : List Char} {value : α} {fuel : Nat}
    {values : List α} (found : List α) (read : Reads item text value) (closed : Closed back)
    (others : Yields (items item fuel (value :: found)) back values rest) :
    Yields (items item (fuel + 1) found) (commaUnless found.isEmpty ++ (text ++ back)) values
      rest := by
  obtain ⟨c, more, rfl, opens⟩ := read.opens
  exact (yields_anotherItem found.isEmpty opens _).bind ((read.yields back closed).bind others)

/-- The elements behind the first are read up to the end of the array. -/
theorem yields_items {item : Reader α} {texts : List (List Char)} {values : List α}
    (each : List.Forall₂ (Reads item) texts values) (rest : List Char) :
    ∀ (fuel : Nat) (last : α) (found : List α), texts.length < fuel →
      Yields (items item fuel (last :: found)) (behindCommas texts ++ ']' :: rest)
        ((last :: found).reverse ++ values) (']' :: rest) := by
  induction each with
  | nil =>
    intro fuel last found enough
    obtain ⟨fuel, rfl⟩ := Nat.exists_eq_succ_of_ne_zero (Nat.ne_of_gt enough)
    rw [List.append_nil]
    exact (yields_anotherItem_end false rest).bind (.pure _ _)
  | @cons text value texts values read _ ih =>
    intro fuel last found enough
    obtain ⟨fuel, rfl⟩ := Nat.exists_eq_succ_of_ne_zero (Nat.ne_of_gt (Nat.zero_lt_of_lt enough))
    have others := ih fuel value (last :: found) (Nat.lt_of_succ_lt_succ enough)
    rw [List.reverse_cons, List.append_assoc] at others
    have next := yields_items_cons (last :: found) read ((Closed.bracket rest).behindCommas texts) others
    rwa [← List.append_assoc text] at next

/-- An array is read element by element. -/
theorem yields_array {item : Reader α} {texts : List (List Char)} {values : List α}
    (each : List.Forall₂ (Reads item) texts values) (rest : List Char) :
    Yields (array item) (printArray texts ++ rest) values rest := by
  have ended : Yields endArray (']' :: rest) () rest :=
    (Yields.nextAfterBlanks? (by decide) rest).bind (.advance ']' rest)
  have opened : printArray texts ++ rest = '[' :: (separated texts ++ ']' :: rest) := by
    simp [printArray]
  rw [opened]
  refine (Yields.advance '[' _).bind ((Yields.remaining _).bind ?_)
  refine Yields.bind (?_ : Yields _ _ values (']' :: rest)) (ended.bind (.pure _ rest))
  cases each with
  | nil => exact (yields_anotherItem_end true rest).bind (.pure _ _)
  | @cons one value texts values read others =>
    have enough : texts.length < (separated (one :: texts) ++ ']' :: rest).length := by
      have commas := length_le_behindCommas texts
      rw [separated_cons, List.length_append, List.length_append, List.length_cons]
      omega
    have behind := yields_items others rest _ value [] enough
    have first := yields_items_cons [] read ((Closed.bracket rest).behindCommas texts)
      behind
    rwa [separated_cons, List.append_assoc] at *

/-- A reader of members makes something of some members, one after the other, of which each has its
key taken when it is read. -/
inductive Gathers (member : String → ρ → Reader ρ) : List (String × List Char) → ρ → ρ → Prop
  /-- No member changes nothing. -/
  | nil (gathered : ρ) : Gathers member [] gathered gathered
  /-- The first member is read and then the others. -/
  | cons {key : String} {text : List Char} {more : List (String × List Char)}
      {gathered next last : ρ}
      (step : ∀ rest, Closed rest → Yields (member key gathered) (':' :: text ++ rest) next rest)
      (others : Gathers member more next last) : Gathers member ((key, text) :: more) gathered last

/-- The end of an object shows that no key comes next. -/
theorem yields_anotherKey_end (first : Bool) (rest : List Char) :
    Yields (anotherKey first) ('\x7d' :: rest) false ('\x7d' :: rest) :=
  (Yields.nextAfterBlanks? (by decide) rest).bind (.pure false _)

/-- A quote shows that a key comes next and is taken. -/
theorem yields_anotherKey (first : Bool) (rest : List Char) :
    Yields (anotherKey first) (commaUnless first ++ '"' :: rest) true rest := by
  cases first with
  | true =>
    exact (Yields.nextAfterBlanks? (by decide) rest).bind
      ((Yields.advance '"' rest).bind (.pure true rest))
  | false =>
    refine (Yields.nextAfterBlanks? (by decide) ('"' :: rest)).bind ?_
    exact (Yields.advance ',' _).bind ((Yields.nextAfterBlanks? (by decide) rest).bind
      ((Yields.advance '"' rest).bind (.pure true rest)))

/-- A member is read, and then those behind it. -/
theorem yields_members_cons {member : String → ρ → Reader ρ} {key : String}
    {text back rest : List Char} {fuel : Nat} {gathered next last : ρ} (first : Bool)
    (step : ∀ rest, Closed rest → Yields (member key gathered) (':' :: text ++ rest) next rest)
    (closed : Closed back) (others : Yields (members member fuel false next) back last rest) :
    Yields (members member (fuel + 1) first gathered)
      (commaUnless first ++ (printMember key text ++ back)) last rest := by
  have quoted : printMember key text ++ back =
      '"' :: (Literal.escaped key.toList ++ '"' :: (':' :: text ++ back)) := by
    rw [printMember, List.append_assoc, Literal.print_append]
  rw [quoted]
  exact (yields_anotherKey first _).bind
    ((Literal.yields_read key _).bind ((step back closed).bind others))

/-- The members behind the first are read up to the end of the object. -/
theorem yields_members {member : String → ρ → Reader ρ} {printed : List (String × List Char)}
    {start last : ρ} (gathers : Gathers member printed start last) (rest : List Char) :
    ∀ fuel : Nat, printed.length < fuel →
      Yields (members member fuel false start)
        (behindCommas (printed.map fun (key, text) => printMember key text) ++ '\x7d' :: rest) last
        ('\x7d' :: rest) := by
  induction gathers with
  | nil gathered =>
    intro fuel enough
    obtain ⟨fuel, rfl⟩ := Nat.exists_eq_succ_of_ne_zero (Nat.ne_of_gt enough)
    exact (yields_anotherKey_end false rest).bind (.pure _ _)
  | @cons key text more gathered next last step _ ih =>
    intro fuel enough
    obtain ⟨fuel, rfl⟩ := Nat.exists_eq_succ_of_ne_zero (Nat.ne_of_gt (Nat.zero_lt_of_lt enough))
    have others := ih fuel (Nat.lt_of_succ_lt_succ enough)
    have next := yields_members_cons false step
      ((Closed.brace rest).behindCommas _) others
    rwa [← List.append_assoc (printMember key text)] at next

/-- An object is read member by member. -/
theorem yields_object {member : String → ρ → Reader ρ} {printed : List (String × List Char)}
    {start last : ρ} (gathers : Gathers member printed start last) (rest : List Char) :
    Yields (object member start) (printObject printed ++ rest) last rest := by
  have ended : Yields endObject ('\x7d' :: rest) () rest :=
    (Yields.nextAfterBlanks? (by decide) rest).bind (.advance '\x7d' rest)
  let texts := printed.map fun (key, text) => printMember key text
  have opened : printObject printed ++ rest = '\x7b' :: (separated texts ++ '\x7d' :: rest) := by
    simp [printObject, texts]
  rw [opened]
  refine (Yields.advance '\x7b' _).bind ((Yields.remaining _).bind ?_)
  refine Yields.bind (?_ : Yields _ _ last ('\x7d' :: rest)) (ended.bind (.pure _ rest))
  cases gathers with
  | nil => exact (yields_anotherKey_end true rest).bind (.pure _ _)
  | @cons key text more _ next _ step others =>
    let behind := more.map fun (key, text) => printMember key text
    have all : separated texts ++ '\x7d' :: rest =
        printMember key text ++ (behindCommas behind ++ '\x7d' :: rest) := by
      rw [← List.append_assoc, ← separated_cons]
      rfl
    have enough : more.length < (separated texts ++ '\x7d' :: rest).length := by
      have commas := length_le_behindCommas behind
      rw [List.length_map] at commas
      rw [all, List.length_append, List.length_append, List.length_cons]
      omega
    have first := yields_members_cons true step ((Closed.brace rest).behindCommas behind)
      (yields_members others rest _ enough)
    rw [all] at first ⊢
    exact first

/-- The colon behind a key is taken off. -/
theorem yields_colon (rest : List Char) : Yields colon (':' :: rest) () rest :=
  (Yields.nextAfterBlanks? (by decide) rest).bind (.advance ':' rest)

end Reader

/-- Keys in order are those of which each is before all that follow. -/
theorem Value.ascending_iff_pairwise {members : List (String × Value)} :
    Ascending members ↔ members.Pairwise fun (key, _) (other, _) => key < other := by
  fun_induction Ascending members with
  | case1 => simp
  | case2 => simp
  | case3 first _ second value rest ih =>
    rw [ih]
    constructor
    · rintro ⟨before, others⟩
      refine List.pairwise_cons.mpr ⟨fun (key, held) member => ?_, others⟩
      rcases List.mem_cons.mp member with same | behind
      · cases same
        exact before
      · exact String.lt_trans before (List.rel_of_pairwise_cons others behind)
    · intro sorted
      obtain ⟨before, others⟩ := List.pairwise_cons.mp sorted
      exact ⟨before (second, value) List.mem_cons_self, others⟩

/-- A member behind all others is put at the end. -/
theorem Members.insert_last {sorted : Members} {key : String} (value : Value)
    (behind : ∀ member ∈ sorted, member.1 < key) :
    Members.insert key value sorted = sorted ++ [(key, value)] := by
  induction sorted with
  | nil => rfl
  | cons first rest ih =>
    obtain ⟨other, held⟩ := first
    obtain ⟨before, others⟩ := List.forall_mem_cons.mp behind
    have apart : key ≠ other := by
      rintro rfl
      exact String.lt_irrefl _ before
    rw [Members.insert, if_neg (String.lt_asymm before), if_neg apart, ih others]
    rfl

/-- A number starts a value. -/
theorem opensValue_of_opensNumber {c : Char} (opens : Numeral.opensNumber c = true) :
    opensValue c = true := by
  unfold Numeral.opensNumber at opens
  unfold opensValue
  rw [Bool.or_assoc, opens, Bool.or_true]

/-- A number does not start like any other value. -/
theorem opensNumber_apart {c : Char} (opens : Numeral.opensNumber c = true) :
    c ≠ 'n' ∧ c ≠ 't' ∧ c ≠ 'f' ∧ c ≠ '"' ∧ c ≠ '[' ∧ c ≠ '\x7b' := by
  have apart : ∀ other : Char, Numeral.opensNumber other = false → c ≠ other := by
    rintro other closes rfl
    rw [opens] at closes
    cases closes
  exact ⟨apart _ (by decide), apart _ (by decide), apart _ (by decide), apart _ (by decide),
    apart _ (by decide), apart _ (by decide)⟩

/-- A printed object starts a value. -/
theorem opens_printObject (members : List (String × List Char)) :
    ∃ c more, printObject members = c :: more ∧ opensValue c = true := ⟨'\x7b', _, rfl, rfl⟩

namespace Value

open Reader

/-- How a member is put among the members before it. -/
def memberReader (depth : Nat) (key : String) (found : Members) : Reader Members := do
  colon
  let held ← Reader.value depth
  pure (Members.insert key held found)

/-- An array is read if nesting does not end here. -/
theorem yields_array {depth : Nat} {texts : List (List Char)} {items : List Value}
    (each : List.Forall₂ (Reads (Reader.value depth)) texts items) :
    Reads (Reader.value (depth + 1)) (printArray texts) (.array items) :=
  ⟨⟨'[', _, rfl, rfl⟩, fun rest _ =>
    (Yields.nextAfterBlanks? (by decide) _).bind ((Reader.yields_array each rest).map Value.array)⟩

/-- An object is read if nesting does not end here. -/
theorem yields_object {depth : Nat} {printed : List (String × List Char)} {members : Members}
    (gathers : Gathers (memberReader depth) printed [] members) :
    Reads (Reader.value (depth + 1)) (printObject printed) (.object members) :=
  ⟨opens_printObject _, fun rest _ =>
    (Yields.nextAfterBlanks? (by decide) _).bind ((Reader.yields_object gathers rest).map Value.object)⟩

/-- Elements that are read as they were printed. -/
theorem forall₂_printItems {depth : Nat} {items : List Value} (exact : ExactItems items)
    (shallow : depthItems items ≤ depth)
    (read : ∀ value : Value, value.Exact → value.depth ≤ depth →
      Reads (Reader.value depth) value.print value) :
    List.Forall₂ (Reads (Reader.value depth)) (printItems items) items := by
  induction items with
  | nil => exact .nil
  | cons item rest ih =>
    obtain ⟨first, others⟩ := exact
    rw [depthItems, Nat.max_le] at shallow
    exact .cons (read item first shallow.1) (ih others shallow.2)

/-- Members that are gathered as they were printed. -/
theorem gathers_printMembers {depth : Nat} (members : Members)
    (read : ∀ value : Value, value.Exact → value.depth ≤ depth →
      Reads (Reader.value depth) value.print value) :
    ∀ sorted : Members, ExactMembers members → depthMembers members ≤ depth →
      (sorted ++ members).Pairwise (fun (key, _) (other, _) => key < other) →
      Gathers (memberReader depth) (printMembers members) sorted (sorted ++ members) := by
  induction members with
  | nil =>
    intro sorted _ _ _
    rw [List.append_nil]
    exact .nil sorted
  | cons member rest ih =>
    obtain ⟨key, value⟩ := member
    rintro sorted ⟨first, others⟩ shallow ascending
    rw [depthMembers, Nat.max_le] at shallow
    have behind : ∀ member ∈ sorted, member.1 < key := fun member before =>
      (List.pairwise_append.mp ascending).2.2 member before (key, value) List.mem_cons_self
    have last := Members.insert_last value behind
    have moved : sorted ++ (key, value) :: rest = sorted ++ [(key, value)] ++ rest := by simp
    rw [moved] at ascending ⊢
    refine .cons (fun behind closed => ?_) (ih _ others shallow.2 ascending)
    rw [← last]
    exact (yields_colon _).bind
      (((read value first shallow.1).yields behind closed).bind (.pure _ behind))

/-- A value without values inside it is read as it was printed, wherever nesting ends. -/
theorem reads_flat (inner : Option (Reader Value)) {value : Value} (exact : value.Exact)
    (flat : value.depth = 0) : Reads (valueWithin inner) value.print value := by
  cases value with
  | null =>
    exact ⟨⟨'n', _, rfl, rfl⟩, fun rest _ => (Yields.nextAfterBlanks? (by decide) _).bind
      ((Yields.advance 'n' _).bind ((Yields.word ['u', 'l', 'l'] rest).bind (.pure _ rest)))⟩
  | bool value =>
    cases value with
    | true =>
      exact ⟨⟨'t', _, rfl, rfl⟩, fun rest _ => (Yields.nextAfterBlanks? (by decide) _).bind
        ((Yields.advance 't' _).bind ((Yields.word ['r', 'u', 'e'] rest).bind (.pure _ rest)))⟩
    | false =>
      exact ⟨⟨'f', _, rfl, rfl⟩, fun rest _ => (Yields.nextAfterBlanks? (by decide) _).bind
        ((Yields.advance 'f' _).bind
          ((Yields.word ['a', 'l', 's', 'e'] rest).bind (.pure _ rest)))⟩
  | number value =>
    obtain ⟨c, more, front, opens⟩ := Numeral.print_opens exact
    refine ⟨⟨c, more, front, opensValue_of_opensNumber opens⟩, fun rest closed => ?_⟩
    have taken := (Numeral.yields_print exact closed).map Value.number
    show Yields _ (Numeral.print value ++ rest) _ _
    rw [front] at taken ⊢
    have visible := (opensValue_apart (opensValue_of_opensNumber opens)).1
    refine (Yields.nextAfterBlanks? visible _).bind ?_
    obtain ⟨no_null, no_true, no_false, no_quote, no_bracket, no_brace⟩ := opensNumber_apart opens
    have number : (c = '-' || c.isDigit) = true := opens
    simp only [number, if_true]
    exact taken
  | text value =>
    refine ⟨⟨'"', _, rfl, rfl⟩, fun rest _ => ?_⟩
    show Yields _ (Literal.print value ++ rest) _ _
    rw [Literal.print_append]
    exact (Yields.nextAfterBlanks? (by decide) _).bind
      ((Yields.advance '"' _).bind ((Literal.yields_read value rest).map Value.text))
  | array items => exact absurd flat (Nat.succ_ne_zero _)
  | object members => exact absurd flat (Nat.succ_ne_zero _)

/-- An exact value is read as it was printed, if its nesting is within the limit. -/
theorem reads_print (depth : Nat) : ∀ value : Value, value.Exact → value.depth ≤ depth →
    Reads (Reader.value depth) value.print value := by
  induction depth with
  | zero => exact fun value exact shallow => reads_flat none exact (Nat.le_zero.mp shallow)
  | succ depth ih =>
    intro value exact shallow
    cases value with
    | array items =>
      exact yields_array (forall₂_printItems exact (Nat.le_of_succ_le_succ shallow) ih)
    | object members =>
      obtain ⟨ascending, each⟩ := exact
      exact yields_object (gathers_printMembers members ih [] each (Nat.le_of_succ_le_succ shallow)
        (ascending_iff_pairwise.mp ascending))
    | null => exact reads_flat _ exact rfl
    | bool value => exact reads_flat _ exact rfl
    | number value => exact reads_flat _ exact rfl
    | text value => exact reads_flat _ exact rfl

end Value

namespace Reader

/-- A number that fits is read as it was printed. -/
theorem reads_natural {n bound : Nat} (expected : String) (small : n < bound)
    (fits : n < wordCount) : Reads (natural bound expected) (Numeral.decimal n) n := by
  obtain ⟨c, more, front, digit⟩ := Numeral.decimal_opens n
  have number : (c = '-' || c.isDigit) = true := by rw [digit, Bool.or_true]
  have opens : opensValue c = true := opensValue_of_opensNumber number
  refine ⟨⟨c, more, front, opens⟩, fun rest closed => ?_⟩
  have same : (UInt64.ofNat n).toNat = n := UInt64.toNat_ofNat_of_lt' fits
  have taken : Yields Numeral.read (Numeral.decimal n ++ rest) (.natural (UInt64.ofNat n)) rest := by
    have whole : (Number.natural (UInt64.ofNat n)).toInt?.isSome = true := rfl
    have printed := Numeral.yields_print whole closed
    rwa [Numeral.print, same] at printed
  rw [front] at taken ⊢
  refine (Yields.nextAfterBlanks? (opensValue_apart opens).1 _).bind ?_
  simp only [number, if_true]
  refine taken.bind ?_
  simp only [same, if_pos small]
  exact .pure n rest

/-- A machine word is read as it was printed. -/
theorem reads_word64 (word : UInt64) : Reads word64 (Numeral.decimal word.toNat) word := by
  have read := (reads_natural "u64" word.toNat_lt word.toNat_lt).map UInt64.ofNat
  rwa [UInt64.ofNat_toNat] at read

/-- A count is read as it was printed. -/
theorem reads_count (count : UInt64) : Reads Reader.count (Numeral.decimal count.toNat) count := by
  have read := (reads_natural "usize" count.toNat_lt count.toNat_lt).map UInt64.ofNat
  rwa [UInt64.ofNat_toNat] at read

/-- A half word is read as it was printed. -/
theorem reads_word32 (word : UInt32) : Reads word32 (Numeral.decimal word.toNat) word := by
  have fits : word.toNat < wordCount := Nat.lt_trans word.toNat_lt (by decide)
  have read := (reads_natural "u32" word.toNat_lt fits).map UInt32.ofNat
  rwa [UInt32.ofNat_toNat] at read

/-- A text is read as it was printed. -/
theorem reads_text (value : String) : Reads text (Literal.print value) value := by
  refine ⟨⟨'"', _, rfl, rfl⟩, fun rest _ => ?_⟩
  rw [Literal.print_append]
  exact (Yields.nextAfterBlanks? (by decide) _).bind
    ((Yields.advance '"' _).bind (Literal.yields_read value rest))

/-- A list is read element by element if nesting does not end here. -/
theorem reads_list {item : Nat → Reader α} {depth : Nat} {texts : List (List Char)}
    {values : List α} (each : List.Forall₂ (Reads (item depth)) texts values) :
    Reads (list item (depth + 1)) (printArray texts) values :=
  ⟨⟨'[', _, rfl, rfl⟩, fun rest _ =>
    (Yields.nextAfterBlanks? (by decide) _).bind (yields_array each rest)⟩

end Reader

namespace Shape

variable {shape : Shape ρ α}

/-- A member of a record is read by the field of its key if that is not gathered yet. -/
theorem yields_member {depth : Nat} {key : String} {field : Field ρ} {text : List Char}
    {gathered next : ρ} (found : shape.fields.find? (·.name = key) = some field)
    (absent : field.present gathered = false)
    (read : ∀ rest, Closed rest → Yields (field.read depth gathered) (text ++ rest) next rest)
    (rest : List Char) (closed : Closed rest) :
    Yields (shape.member depth key gathered) (':' :: text ++ rest) next rest := by
  unfold member
  simp only [found, absent, Bool.false_eq_true, if_false]
  exact (Reader.yields_colon _).bind (read rest closed)

/-- A record is read from its members if they make one and nesting does not end here. -/
theorem reads_object {depth : Nat} {printed : List (String × List Char)} {gathered : ρ} {record : α}
    (gathers : Reader.Gathers (shape.member depth) printed shape.start gathered)
    (finished : shape.finish gathered = .ok record) :
    Reads (shape.read (depth + 1)) (printObject printed) record := by
  refine ⟨opens_printObject _, fun rest _ => ?_⟩
  refine (Yields.nextAfterBlanks? (by decide) _).bind ?_
  refine (Reader.yields_object gathers rest).bind ?_
  unfold read.done
  rw [finished]
  exact .pure record rest

/-- A member is read by the field of its key, which puts the value read among those gathered. -/
theorem exists_field {β : Type} {depth : Nat} {key : String} {field : Field ρ} {text : List Char}
    {gathered next : ρ} {reader : Reader β} {value : β} {fill : β → ρ}
    (found : shape.fields.find? (·.name = key) = some field)
    (absent : field.present gathered = false) (read : Reads reader text value)
    (reading : field.read depth gathered = reader >>= fun value => pure (fill value))
    (filled : fill value = next) :
    ∃ field, shape.fields.find? (·.name = key) = some field ∧ field.present gathered = false ∧
      ∀ rest, Closed rest → Yields (field.read depth gathered) (text ++ rest) next rest := by
  refine ⟨field, found, absent, fun rest closed => ?_⟩
  rw [reading, ← filled]
  exact (read.yields rest closed).bind (.pure (fill value) rest)

/-- What is gathered of a record from members in any order: `known` tells it by the keys of the
members that have been read. -/
structure Gathered (shape : Shape ρ α) (depth : Nat) (printed : List (String × List Char))
    (known : List String → ρ) (record : α) : Prop where
  /-- Before the first member nothing is gathered. -/
  nothing : known [] = shape.start
  /-- A member that has not been read adds its field. -/
  member : ∀ key text, (key, text) ∈ printed → ∀ seen, key ∉ seen →
    ∃ field, shape.fields.find? (·.name = key) = some field ∧ field.present (known seen) = false ∧
      ∀ rest, Closed rest →
        Yields (field.read depth (known seen)) (text ++ rest) (known (key :: seen)) rest
  /-- All members make the record. -/
  everything : ∀ seen, (∀ key ∈ printed.map Prod.fst, key ∈ seen) →
    shape.finish (known seen) = .ok record

namespace Gathered

variable {depth : Nat} {printed : List (String × List Char)} {known : List String → ρ} {record : α}

/-- Members with keys of their own are gathered one after the other. -/
theorem gathers (gathered : Gathered shape depth printed known record) :
    ∀ (arranged : List (String × List Char)) (seen : List String),
      (∀ member ∈ arranged, member ∈ printed) → (arranged.map Prod.fst).Nodup →
      (∀ key ∈ arranged.map Prod.fst, key ∉ seen) →
      Reader.Gathers (shape.member depth) arranged (known seen)
        (known ((arranged.map Prod.fst).reverse ++ seen)) := by
  intro arranged
  induction arranged with
  | nil => exact fun seen _ _ _ => .nil _
  | cons member more ih =>
    obtain ⟨key, text⟩ := member
    intro seen among apart unseen
    obtain ⟨first, others⟩ := List.forall_mem_cons.mp among
    obtain ⟨new, distinct⟩ := List.nodup_cons.mp apart
    obtain ⟨now, later⟩ := List.forall_mem_cons.mp unseen
    obtain ⟨field, found, absent, read⟩ := gathered.member key text first seen now
    have still : ∀ other ∈ more.map Prod.fst, other ∉ key :: seen := by
      rintro other member (_ | ⟨_, before⟩)
      · exact new member
      · exact later other member before
    have behind := ih (key :: seen) others distinct still
    rw [List.map_cons, List.reverse_cons, List.append_assoc]
    exact .cons (yields_member found absent read) behind

/-- A record is read from its members in any order. -/
theorem reads (gathered : Gathered shape depth printed known record)
    (apart : (printed.map Prod.fst).Nodup) {arranged : List (String × List Char)}
    (order : arranged.Perm printed) :
    Reads (shape.read (depth + 1)) (printObject arranged) record := by
  have keys := order.map Prod.fst
  have gathers := gathered.gathers arranged [] (fun member => order.mem_iff.mp)
    (keys.nodup_iff.mpr apart) (fun key _ => List.not_mem_nil)
  rw [gathered.nothing, List.append_nil] at gathers
  refine reads_object gathers (gathered.everything _ fun key member => ?_)
  exact List.mem_reverse.mpr (keys.mem_iff.mpr member)

end Gathered

end Shape

end ThresholdDaemon.Json
