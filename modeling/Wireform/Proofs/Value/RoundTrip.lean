import Wireform.Proofs.Binary64.Value
import Wireform.Proofs.Program.Literal
import Wireform.Proofs.Value.Escapes

/-!
Values that are read back from their JSON texts.

`Value.written` is the text of a value that has one, and such a value is written if there is room
for all its collections inside each other. A value is read from the front of a text, whatever
follows (`ReadsBack`); of what follows only the first character counts, since it must not go on with
a number. From that the items of a list and the entries of an object are read one by one. What comes
back is the value itself with the pairs in its texts joined, `Value.joined`.

* `Value.writtenWithin_of_simple`, `Json.json_fields`: when there is a text, and which.
* `Json.readsBack_of_simple`: null, truth values, whole numbers, texts and lists are read back.
* `Json.decode_fields`: so are objects.
* `Json.printable_fields`: their texts are printable ASCII.
-/

namespace Wireform

open Text (CodePoint)

/-! ## Values as they read back -/

/-- No first half of a pair stands right before a second one. -/
def Text.Unpaired (cs : List CodePoint) : Prop :=
  cs.IsChain fun a b => Text.pairOf? a b = none

theorem Text.eq_codePoints_of_ofCodePoints? {cs : List CodePoint} {s : String}
    (chars : Text.ofCodePoints? cs = some s) : cs = Text.codePoints s := by
  obtain ⟨ds, each, rfl⟩ := Option.map_eq_some_iff.1 chars
  rw [Text.codePoints, String.toList_ofList]
  clear chars
  induction cs generalizing ds with
  | nil =>
      cases each
      rfl
  | cons p cs ih =>
      rw [List.mapM_cons] at each
      obtain ⟨c, char, rest⟩ := Option.bind_eq_some_iff.1 each
      obtain ⟨ds', each', same⟩ := Option.bind_eq_some_iff.1 rest
      cases same
      cases p with
      | half => cases char
      | char =>
          cases char
          rw [ih _ each', List.map_cons]

namespace Value

theorem ofCodePoints_codePoints (s : String) : ofCodePoints (Text.codePoints s) = .text s := by
  rw [ofCodePoints, Text.ofCodePoints?_codePoints]

/-- Texts are the same key if they have the same code points. -/
theorem sameKey_ofCodePoints_iff {a b : List CodePoint} :
    sameKey (.ofCodePoints a) (.ofCodePoints b) = true ↔ a = b := by
  constructor
  · intro same
    unfold ofCodePoints at same
    split at same <;> rename_i first <;> split at same <;> rename_i second
    · rw [Text.eq_codePoints_of_ofCodePoints? first, Text.eq_codePoints_of_ofCodePoints? second,
        eq_of_beq same]
    · cases same
    · cases same
    · exact eq_of_beq same
  · rintro rfl
    unfold ofCodePoints
    split
    · exact beq_self_eq_true _
    · exact beq_self_eq_true a

/-- Fields as the entries of an object. -/
def named (fields : List (List CodePoint × Value)) : List (Value × Value) :=
  fields.map fun f => (.ofCodePoints f.1, f.2)

theorem named_cons (f : List CodePoint × Value) (fields : List (List CodePoint × Value)) :
    named (f :: fields) = (.ofCodePoints f.1, f.2) :: named fields :=
  rfl

/-- The values that are read back from a JSON text: null, truth values, whole numbers that are not
too long, texts, and lists of such values. -/
inductive Simple : Value → Prop
  | null : Simple .null
  | bool (b : Bool) : Simple (.bool b)
  | int {n : Int} (short : (Binary64.digits n.natAbs).length ≤ maxDigits) : Simple (.int n)
  | text (s : String) : Simple (.text s)
  | ragged {cs : List CodePoint} (half : Text.ofCodePoints? cs = none) : Simple (.ragged cs)
  | list {items : List Value} (each : ∀ v ∈ items, Simple v) : Simple (.list items)

/-- The values in whose texts no first half of a pair stands right before a second one. -/
inductive Unpaired : Value → Prop
  | null : Unpaired .null
  | bool (b : Bool) : Unpaired (.bool b)
  | int (n : Int) : Unpaired (.int n)
  | text (s : String) : Unpaired (.text s)
  | ragged {cs : List CodePoint} (half : Text.ofCodePoints? cs = none)
      (apart : Text.Unpaired cs) : Unpaired (.ragged cs)
  | list {items : List Value} (each : ∀ v ∈ items, Unpaired v) : Unpaired (.list items)

mutual

/-- The value with the pairs in its texts joined. -/
def joined : Value → Value
  | .ragged cs => .ofCodePoints (Text.joinPairs cs)
  | .list items => .list (joinedItems items)
  | v => v

/-- The items with the pairs in their texts joined. -/
def joinedItems : List Value → List Value
  | [] => []
  | v :: vs => joined v :: joinedItems vs

end

theorem joinedItems_eq_map (items : List Value) : joinedItems items = items.map joined := by
  induction items with
  | nil => rfl
  | cons v vs ih => rw [joinedItems, ih, List.map_cons]

/-- Joining pairs leaves a value without pairs as it is. -/
theorem joined_of_unpaired {v : Value} (apart : v.Unpaired) : v.joined = v := by
  induction apart with
  | ragged half apart => rw [joined, Text.joinPairs_of_isChain apart, ofCodePoints, half]
  | list each ih =>
      rw [joined, joinedItems_eq_map, List.map_congr_left ih, List.map_id']
  | _ => rfl

/-- The fields with the pairs in their names and values joined. -/
def joinedFields (fields : List (List CodePoint × Value)) : List (List CodePoint × Value) :=
  fields.map fun f => (Text.joinPairs f.1, f.2.joined)

/-! ## Values as they are written -/

mutual

/-- How many collections are inside each other in a value. -/
def nesting : Value → Nat
  | .list items => nestingItems items + 1
  | .pair a b => max (nesting a) (nesting b) + 1
  | .map entries => nestingEntries entries + 1
  | _ => 0

/-- How many collections are inside each other in the items of a collection. -/
def nestingItems : List Value → Nat
  | [] => 0
  | v :: vs => max (nesting v) (nestingItems vs)

/-- How many collections are inside each other in the entries of a map. -/
def nestingEntries : List (Value × Value) → Nat
  | [] => 0
  | (_, v) :: es => max (nesting v) (nestingEntries es)

end

theorem nestingEntries_named_le_iff {fields : List (List CodePoint × Value)} {k : Nat} :
    nestingEntries (named fields) ≤ k ↔ ∀ f ∈ fields, f.2.nesting ≤ k := by
  induction fields with
  | nil => exact iff_of_true (Nat.zero_le k) (List.forall_mem_nil _)
  | cons f fs ih => rw [named_cons, nestingEntries, Nat.max_le, ih, List.forall_mem_cons]

mutual

/-- The text of a simple value, however deep its lists are. -/
def written : Value → List Char
  | .null => "null".toList
  | .bool b => (if b then "true" else "false").toList
  | .int n => (toString n).toList
  | .text s => (Text.json s).toList
  | .ragged cs => (Text.jsonCodes cs).toList
  | .list items => '[' :: ([',', ' '].intercalate (writtenItems items) ++ [']'])
  | _ => []

/-- The texts of the items of a list. -/
def writtenItems : List Value → List (List Char)
  | [] => []
  | v :: vs => written v :: writtenItems vs

end

theorem writtenItems_eq_map (items : List Value) : writtenItems items = items.map written := by
  induction items with
  | nil => rfl
  | cons v vs ih => rw [writtenItems, ih, List.map_cons]

/-- The value has its text if there is room for its collections, and else is too deep. -/
def WrittenWithin (v : Value) : Prop :=
  ∀ room, json room v =
    if v.nesting ≤ room then .ok (String.ofList v.written) else .error .tooDeep

theorem writtenWithin_of_flat {v : Value} (flat : v.nesting = 0)
    (text : ∀ room, json room v = .ok (String.ofList v.written)) : WrittenWithin v := by
  intro room
  rw [flat, if_pos (Nat.zero_le room), text]

theorem jsonItems_eq {items : List Value} (each : ∀ v ∈ items, WrittenWithin v) (room : Nat) :
    jsonItems room items =
      if nestingItems items ≤ room then .ok ((writtenItems items).map String.ofList)
      else .error .tooDeep := by
  induction items with
  | nil => exact (if_pos (Nat.zero_le room)).symm
  | cons v vs ih =>
      rw [List.forall_mem_cons] at each
      rw [jsonItems, each.1 room, ih each.2, nestingItems]
      by_cases first : v.nesting ≤ room <;> by_cases rest : nestingItems vs ≤ room
      · rw [if_pos first, if_pos rest, if_pos (Nat.max_le.2 ⟨first, rest⟩)]
        rfl
      all_goals simp only [first, rest, Nat.max_le, and_true, and_false, if_true, if_false]
      all_goals rfl

theorem ofList_brackets (before after : Char) (parts : List (List Char)) :
    String.singleton before ++ ", ".intercalate (parts.map String.ofList) ++
        String.singleton after =
      String.ofList (before :: ([',', ' '].intercalate parts ++ [after])) := by
  rw [← String.toList_inj, String.toList_append, String.toList_append, String.toList_intercalate,
    List.map_map, String.toList_ofList, String.toList_singleton, String.toList_singleton]
  have same : (String.toList ∘ String.ofList : List Char → List Char) = id := by
    funext cs
    exact String.toList_ofList
  rw [same, List.map_id, String.toList_ofList]
  rfl

theorem writtenWithin_list {items : List Value} (each : ∀ v ∈ items, WrittenWithin v) :
    WrittenWithin (.list items) := by
  intro room
  rw [json, nesting]
  cases room with
  | zero => rfl
  | succ room =>
      rw [if_neg (Nat.succ_ne_zero room), Nat.add_sub_cancel, jsonItems_eq each]
      simp only [Nat.add_le_add_iff_right]
      split
      · exact congrArg Except.ok (ofList_brackets '[' ']' (writtenItems items))
      · rfl

/-- A simple value is written if there is room for its lists. -/
theorem writtenWithin_of_simple {v : Value} (simple : v.Simple) : WrittenWithin v := by
  induction simple with
  | null | text | ragged =>
      exact writtenWithin_of_flat rfl fun room => congrArg Except.ok String.ofList_toList.symm
  | bool b =>
      exact writtenWithin_of_flat rfl fun room => congrArg Except.ok String.ofList_toList.symm
  | @int n short =>
      refine writtenWithin_of_flat rfl fun room => ?_
      rw [json, jsonInt, if_neg (Nat.not_lt.2 short), written, String.ofList_toList]
  | list each ih => exact writtenWithin_list ih

theorem jsonKey_ofCodePoints (cs : List CodePoint) :
    jsonKey (.ofCodePoints cs) = .ok (Text.jsonCodes cs) := by
  unfold ofCodePoints
  split
  · next s chars =>
    rw [Text.eq_codePoints_of_ofCodePoints? chars, jsonKey, Text.json_eq_jsonCodes]
  · rfl

end Value

namespace Json

/-- What can follow a value in a text: its end, or what stands between items and behind them. -/
def Ends (rest : List Char) : Prop :=
  ∀ c ∈ rest.head?, c = ',' ∨ c = ']' ∨ c = '\x7d'

theorem Ends.cons {c : Char} {rest : List Char} (mark : c = ',' ∨ c = ']' ∨ c = '\x7d') :
    Ends (c :: rest) := by
  rintro b ⟨⟩
  exact mark

/-- The value is read back from its text, whatever follows, if there is room for its
collections. -/
def ReadsBack (v : Value) : Prop :=
  ∀ n room rest, v.written.length ≤ n → v.nesting ≤ room → Ends rest →
    value? n room (v.written ++ rest) = some (v.joined, rest)

/-- Every text takes a step at least. -/
theorem readsBack_of_succ {v : Value} (nonempty : v.written ≠ [])
    (read : ∀ n room rest, v.written.length ≤ n + 1 → v.nesting ≤ room → Ends rest →
      value? (n + 1) room (v.written ++ rest) = some (v.joined, rest)) : ReadsBack v := by
  intro n room rest enough fits ends
  cases n with
  | zero => exact absurd (List.eq_nil_of_length_eq_zero (Nat.le_zero.1 enough)) nonempty
  | succ n => exact read n room rest enough fits ends

/-! ## Numbers -/

section Number

variable {ds rest : List Char}

theorem not_isDigit_of_ends (ends : Ends rest) : ∀ c ∈ rest.head?, c.isDigit = false := by
  intro c mem
  rcases ends c mem with rfl | rfl | rfl <;> rfl

theorem digitRow?_append (row : Binary64.IsDigitRow ds) (ends : Ends rest) :
    digitRow? (ds ++ rest) = some (ds, rest) := by
  obtain ⟨front, behind⟩ := Statement.longestRun_iff.1
    (show Statement.LongestRun Char.isDigit (ds ++ rest) ds rest from
      ⟨rfl, row.all, not_isDigit_of_ends ends⟩)
  rw [digitRow?, ← front, ← behind, if_neg row.nonempty]

theorem places?_of_ends (ends : Ends rest) : places? rest = some ([], rest) := by
  cases rest with
  | nil => rfl
  | cons c rest => rcases ends c rfl with rfl | rfl | rfl <;> rfl

theorem exponent?_of_ends (ends : Ends rest) : exponent? rest = some (none, rest) := by
  cases rest with
  | nil => rfl
  | cons c rest => rcases ends c rfl with rfl | rfl | rfl <;> rfl

/-- The digits of a whole number are read back, if they are not too many. -/
theorem magnitude?_digits (negative : Bool) {n : Nat}
    (short : (Binary64.digits n).length ≤ Value.maxDigits) (ends : Ends rest) :
    magnitude? negative (Binary64.digits n ++ rest) =
      some (.int (Binary64.signed negative n), rest) := by
  have leading : ¬ ((Binary64.digits n).head? = some '0' ∧ Binary64.digits n ≠ ['0']) :=
    fun zero => zero.2 (Binary64.digits_of_head?_zero zero.1)
  have value : Statement.natOfDigits (Binary64.digits n) = n := Nat.ofDigitChars_ten_toDigits
  rw [magnitude?, digitRow?_append (Binary64.isDigitRow_digits n) ends]
  simp only [Option.bind_eq_bind, Option.bind_some, if_neg leading, places?_of_ends ends,
    exponent?_of_ends ends, if_true, if_neg (Nat.not_lt.2 short), value]

theorem toList_toString (n : Int) :
    (toString n).toList = Binary64.signMark (n < 0) ++ Binary64.digits n.natAbs := by
  cases n with
  | ofNat m =>
      have positive : decide (Int.ofNat m < 0) = false :=
        decide_eq_false (Int.not_lt.2 (Int.natCast_nonneg m))
      rw [positive]
      change (toString m).toList = _
      rw [Nat.toString_eq_ofList_toDigits, String.toList_ofList]
      rfl
  | negSucc m =>
      have negative : decide (Int.negSucc m < 0) = true := decide_eq_true (by omega)
      rw [negative]
      change ("-" ++ toString (m + 1)).toList = _
      rw [String.toList_append, Nat.toString_eq_ofList_toDigits, String.toList_ofList,
        String.toList_ofList]
      rfl

theorem exists_cons_digits (n : Nat) :
    ∃ d ds, Binary64.digits n = d :: ds ∧ d.isDigit = true := by
  have row := Binary64.isDigitRow_digits n
  obtain ⟨d, ds, first⟩ := List.exists_cons_of_ne_nil row.nonempty
  exact ⟨d, ds, first, row.all d (by rw [first]; exact List.mem_cons_self)⟩

theorem number?_of_isDigit {d : Char} (digit : d.isDigit = true) (cs : List Char) :
    number? (d :: cs) = magnitude? false (d :: cs) := by
  rw [number?.eq_def]
  split
  · next same =>
    obtain ⟨rfl, -⟩ := List.cons.inj same
    cases digit
  · rfl

/-- A whole number is read back, if it has not too many digits. -/
theorem number?_toString {n : Int} (short : (Binary64.digits n.natAbs).length ≤ Value.maxDigits)
    (ends : Ends rest) : number? ((toString n).toList ++ rest) = some (.int n, rest) := by
  rw [toList_toString, List.append_assoc]
  have sign : Binary64.signed (n < 0) n.natAbs = n := by
    unfold Binary64.signed
    split
    · next negative =>
      have below := of_decide_eq_true negative
      omega
    · next positive =>
      have above := of_decide_eq_false (Bool.eq_false_of_not_eq_true positive)
      omega
  have read := magnitude?_digits (n < 0) short ends
  rw [sign] at read
  rw [← read]
  cases decide (n < 0) with
  | true => rfl
  | false =>
      obtain ⟨d, ds, first, digit⟩ := exists_cons_digits n.natAbs
      rw [first]
      exact number?_of_isDigit digit _

end Number

/-! ## Values -/

section Values

variable {n room : Nat} {rest : List Char}

/-- A text is read back, its pairs joined. -/
theorem value?_jsonCodes (cs : List CodePoint) :
    value? (n + 1) room ((Text.jsonCodes cs).toList ++ rest) =
      some (.ofCodePoints (Text.joinPairs cs), rest) := by
  rw [Text.toList_jsonCodes, List.cons_append, List.append_assoc, List.singleton_append]
  have step : value? (n + 1) room ('"' :: (cs.flatMap Text.jsonCode ++ '"' :: rest)) =
      (string? (cs.flatMap Text.jsonCode ++ '"' :: rest)).map fun r =>
        (.ofCodePoints (Text.joinPairs r.1), r.2) := by
    rw [value?]
    rfl
  rw [step, string?_jsonCode, Option.map_some, Text.joinPairs_halves]

theorem isBlank_of_isDigit {c : Char} (digit : c.isDigit = true) : isBlank c = false := by
  cases blank : isBlank c with
  | false => rfl
  | true =>
      simp only [isBlank, Bool.or_eq_true, beq_iff_eq] at blank
      rcases blank with ((rfl | rfl) | rfl) | rfl <;> cases digit

/-- What starts with a digit is read as a number. -/
theorem value?_of_isDigit {d : Char} (digit : d.isDigit = true) (cs : List Char) :
    value? (n + 1) room (d :: cs) = number? (d :: cs) := by
  have other {c : Char} (noDigit : c.isDigit = false) {more : List Char} :
      d :: cs ≠ c :: more := by
    intro same
    obtain ⟨rfl, -⟩ := List.cons.inj same
    rw [digit] at noDigit
    cases noDigit
  rw [value?, skipBlanks_cons (isBlank_of_isDigit digit)]
  split
  case h_7 => rfl
  all_goals next same => exact absurd same (other rfl)

theorem value?_toString (k : Int) :
    value? (n + 1) room ((toString k).toList ++ rest) = number? ((toString k).toList ++ rest) := by
  rw [toList_toString]
  cases decide (k < 0) with
  | true =>
      change value? (n + 1) room ('-' :: _) = _
      rw [value?]
      rfl
  | false =>
      obtain ⟨d, ds, first, digit⟩ := exists_cons_digits k.natAbs
      rw [first]
      exact value?_of_isDigit digit _

theorem readsBack_int {k : Int} (short : (Binary64.digits k.natAbs).length ≤ Value.maxDigits) :
    ReadsBack (.int k) := by
  refine readsBack_of_succ ?_ fun n room rest _ _ ends => ?_
  · change (toString k).toList ≠ []
    rw [toList_toString]
    exact List.append_ne_nil_of_right_ne_nil _ (Binary64.isDigitRow_digits k.natAbs).nonempty
  · change value? (n + 1) room ((toString k).toList ++ rest) = some (.int k, rest)
    rw [value?_toString, number?_toString short ends]

theorem items?_last {cs : List Char} {v : Value} (read : value? n room cs = some (v, ']' :: rest)) :
    items? (n + 1) room cs = some ([v], rest) := by
  rw [items?, read]
  rfl

theorem items?_next {cs : List Char} {v : Value} (read : value? n room cs = some (v, ',' :: rest)) :
    items? (n + 1) room cs = (items? n room rest).map fun (vs, rest) => (v :: vs, rest) := by
  rw [items?, read]
  change ((items? n room rest).bind fun (vs, rest) => some (v :: vs, rest)) = _
  cases items? n room rest <;> rfl

/-- No item starts with a closing bracket. -/
theorem items?_closing (n room : Nat) (cs : List Char) : items? n room (']' :: cs) = none := by
  cases n with
  | zero => rw [items?]
  | succ n =>
      have value : value? n room (']' :: cs) = none := by
        cases n with
        | zero => rw [value?]
        | succ n => rw [value?]; rfl
      rw [items?, value]
      rfl

/-- What stands behind a bracket is a list, if items can be read there. -/
theorem value?_bracket {cs : List Char} {vs : List Value}
    (read : items? n room cs = some (vs, rest)) :
    value? (n + 1) (room + 1) ('[' :: cs) = some (.list vs, rest) := by
  have inside : (skipBlanks cs).head? ≠ some ']' := by
    intro closing
    obtain ⟨more, closed⟩ := List.head?_eq_some_iff.1 closing
    rw [← items?_skipBlanks, closed, items?_closing] at read
    cases read
  have step : value? (n + 1) (room + 1) ('[' :: cs) =
      if (skipBlanks cs).head? = some ']' then some (.list [], (skipBlanks cs).tail)
      else (items? n room cs).map fun r => (.list r.1, r.2) := by
    rw [value?]
    rfl
  rw [step, if_neg inside, read]
  rfl

/-- The items of a list are read back, up to its end. -/
theorem items?_intercalate {items : List Value} (nonempty : items ≠ [])
    (each : ∀ v ∈ items, ReadsBack v) (fits : Value.nestingItems items ≤ room)
    (enough : ([',', ' '].intercalate (items.map Value.written)).length < n) :
    items? n room ([',', ' '].intercalate (items.map Value.written) ++ ']' :: rest) =
      some (items.map Value.joined, rest) := by
  induction items generalizing n with
  | nil => exact absurd rfl nonempty
  | cons v vs ih =>
      obtain ⟨m, rfl⟩ : ∃ m, n = m + 1 := ⟨n - 1, by omega⟩
      rw [List.forall_mem_cons] at each
      rw [Value.nestingItems, Nat.max_le] at fits
      by_cases last : vs = []
      · subst last
        rw [List.map_cons, List.map_nil, List.intercalate_singleton] at enough ⊢
        exact items?_last (each.1 m room _ (by omega) fits.1 (.cons (.inr (.inl rfl))))
      · rw [List.map_cons, List.intercalate_cons_of_ne_nil (by simpa using last)] at enough ⊢
        simp only [List.length_append, List.length_cons, List.length_nil] at enough
        simp only [List.append_assoc, List.cons_append, List.nil_append]
        rw [items?_next (each.1 m room _ (by omega) fits.1 (.cons (.inl rfl))), items?_blank,
          ih last each.2 fits.2 (by omega)]
        rfl

/-- A list is read back, if its items are. -/
theorem readsBack_list {items : List Value} (each : ∀ v ∈ items, ReadsBack v) :
    ReadsBack (.list items) := by
  have same : (Value.list items).joined = .list (items.map Value.joined) := by
    rw [Value.joined, Value.joinedItems_eq_map]
  have text : (Value.list items).written =
      '[' :: ([',', ' '].intercalate (items.map Value.written) ++ [']']) := by
    rw [Value.written, Value.writtenItems_eq_map]
  refine readsBack_of_succ ?_ fun n room rest enough fits _ => ?_
  · rw [text]
    exact List.cons_ne_nil _ _
  rw [text, List.length_cons, List.length_append, List.length_singleton] at enough
  rw [Value.nesting] at fits
  obtain ⟨inner, rfl⟩ : ∃ inner, room = inner + 1 := ⟨room - 1, by omega⟩
  rw [same, text, List.cons_append, List.append_assoc, List.singleton_append]
  by_cases none : items = []
  · subst none
    rw [value?]
    rfl
  · rw [value?_bracket (items?_intercalate none each (Nat.le_of_succ_le_succ fits) (by omega))]

theorem readsBack_jsonCodes {v : Value} {cs : List CodePoint}
    (text : v.written = (Text.jsonCodes cs).toList)
    (read : v.joined = .ofCodePoints (Text.joinPairs cs)) : ReadsBack v := by
  refine readsBack_of_succ ?_ fun n room rest _ _ _ => ?_
  · rw [text, Text.toList_jsonCodes]
    exact List.cons_ne_nil _ _
  · rw [text, value?_jsonCodes, read]

/-- Every simple value is read back, the pairs in its texts joined. -/
theorem readsBack_of_simple {v : Value} (simple : v.Simple) : ReadsBack v := by
  induction simple with
  | null =>
      refine readsBack_of_succ (List.cons_ne_nil _ _) fun n room rest _ _ _ => ?_
      rw [value?]
      rfl
  | bool b =>
      cases b with
      | false =>
          refine readsBack_of_succ (List.cons_ne_nil _ _) fun n room rest _ _ _ => ?_
          rw [value?]
          rfl
      | true =>
          refine readsBack_of_succ (List.cons_ne_nil _ _) fun n room rest _ _ _ => ?_
          rw [value?]
          rfl
  | int short => exact readsBack_int short
  | text s =>
      refine readsBack_jsonCodes (congrArg String.toList (Text.json_eq_jsonCodes s)) ?_
      rw [Text.joinPairs_codePoints, Value.ofCodePoints_codePoints]
      rfl
  | ragged _ => exact readsBack_jsonCodes rfl rfl
  | list each ih => exact readsBack_list ih

/-! ## Objects -/

/-- The text of an entry. -/
def entryText (f : List CodePoint × Value) : List Char :=
  (Text.jsonCodes f.1).toList ++ ':' :: ' ' :: f.2.written

/-- The text of an object. -/
def fieldsText (fields : List (List CodePoint × Value)) : List Char :=
  '\x7b' :: ([',', ' '].intercalate (fields.map entryText) ++ ['\x7d'])

theorem key?_jsonCodes (name : List CodePoint) :
    key? ((Text.jsonCodes name).toList ++ ':' :: rest) =
      some (.ofCodePoints (Text.joinPairs name), rest) := by
  have string := string?_jsonCode name (':' :: rest)
  rw [Text.toList_jsonCodes, List.cons_append, List.append_assoc, List.singleton_append, key?,
    skipBlanks_cons rfl]
  change ((string? _).bind _) = _
  rw [string]
  change some (Value.ofCodePoints _, rest) = _
  rw [Text.joinPairs_halves]

theorem entries?_last {cs body : List Char} {key v : Value} (name : key? cs = some (key, body))
    (read : value? n room body = some (v, '\x7d' :: rest)) :
    entries? (n + 1) room cs = some ([(key, v)], rest) := by
  rw [entries?, name]
  change ((value? n room body).bind _) = _
  rw [read]
  rfl

theorem entries?_next {cs body : List Char} {key v : Value} (name : key? cs = some (key, body))
    (read : value? n room body = some (v, ',' :: rest)) :
    entries? (n + 1) room cs =
      (entries? n room rest).map fun (es, rest) => ((key, v) :: es, rest) := by
  rw [entries?, name]
  change ((value? n room body).bind _) = _
  rw [read]
  change ((entries? n room rest).bind fun (es, rest) => some ((key, v) :: es, rest)) = _
  cases entries? n room rest <;> rfl

/-- The entries of an object are read back, up to its end. -/
theorem entries?_intercalate {fields : List (List CodePoint × Value)} (nonempty : fields ≠ [])
    (each : ∀ f ∈ fields, ReadsBack f.2) (fits : ∀ f ∈ fields, f.2.nesting ≤ room)
    (enough : ([',', ' '].intercalate (fields.map entryText)).length < n) :
    entries? n room ([',', ' '].intercalate (fields.map entryText) ++ '\x7d' :: rest) =
      some (Value.named (Value.joinedFields fields), rest) := by
  induction fields generalizing n with
  | nil => exact absurd rfl nonempty
  | cons f fs ih =>
      obtain ⟨m, rfl⟩ : ∃ m, n = m + 1 := ⟨n - 1, by omega⟩
      rw [List.forall_mem_cons] at each fits
      by_cases last : fs = []
      · subst last
        rw [List.map_cons, List.map_nil, List.intercalate_singleton] at enough ⊢
        simp only [entryText, List.length_append, List.length_cons] at enough
        simp only [entryText, List.append_assoc, List.cons_append]
        exact entries?_last (key?_jsonCodes f.1) ((value?_blank m room _).trans
          (each.1 m room _ (by omega) fits.1 (.cons (.inr (.inr rfl)))))
      · rw [List.map_cons, List.intercalate_cons_of_ne_nil (by simpa using last)] at enough ⊢
        simp only [entryText, List.length_append, List.length_cons, List.length_nil] at enough
        simp only [entryText, List.append_assoc, List.cons_append, List.nil_append]
        rw [entries?_next (key?_jsonCodes f.1) ((value?_blank m room _).trans
          (each.1 m room _ (by omega) fits.1 (.cons (.inl rfl)))), entries?_blank,
          ih last each.2 fits.2 (by omega)]
        rfl

/-- No entry starts with a closing brace. -/
theorem entries?_closing (n room : Nat) (cs : List Char) :
    entries? n room ('\x7d' :: cs) = none := by
  cases n with
  | zero => rw [entries?]
  | succ n => rw [entries?]; rfl

/-- What stands behind a brace is an object, if entries can be read there. -/
theorem value?_brace {cs : List Char} {es : List (Value × Value)}
    (read : entries? n room cs = some (es, rest)) :
    value? (n + 1) (room + 1) ('\x7b' :: cs) = some (.ofEntries es, rest) := by
  have inside : (skipBlanks cs).head? ≠ some '\x7d' := by
    intro closing
    obtain ⟨more, closed⟩ := List.head?_eq_some_iff.1 closing
    rw [← entries?_skipBlanks, closed, entries?_closing] at read
    cases read
  have step : value? (n + 1) (room + 1) ('\x7b' :: cs) =
      if (skipBlanks cs).head? = some '\x7d' then some (.map [], (skipBlanks cs).tail)
      else (entries? n room cs).map fun r => (.ofEntries r.1, r.2) := by
    rw [value?]
    rfl
  rw [step, if_neg inside, read]
  rfl

end Values

theorem printable_digits (n : Nat) : Text.Printable (Binary64.digits n) := by
  intro c mem
  obtain ⟨least, most⟩ := Statement.toNat_of_isDigit ((Binary64.isDigitRow_digits n).all c mem)
  refine ⟨?_, ?_⟩
  · change 32 ≤ c.toNat
    omega
  · change c.toNat ≤ 126
    omega

/-- The text of a simple value is printable, whatever its texts hold. -/
theorem printable_written {v : Value} (simple : v.Simple) : Text.Printable v.written := by
  induction simple with
  | null => exact Text.printable_of_all rfl
  | bool b => cases b <;> exact Text.printable_of_all rfl
  | @int n _ =>
      change Text.Printable (toString n).toList
      rw [toList_toString]
      refine .append ?_ (printable_digits _)
      cases decide (n < 0) <;> exact Text.printable_of_all rfl
  | text s =>
      change Text.Printable (Text.json s).toList
      rw [Text.json_eq_jsonCodes]
      exact Text.printable_jsonCodes _
  | ragged _ => exact Text.printable_jsonCodes _
  | list each ih =>
      rw [Value.written, Value.writtenItems_eq_map]
      refine .cons (by decide) (.append ?_ (Text.printable_of_all rfl))
      refine .intercalate (Text.printable_of_all rfl) ?_
      intro cs mem
      obtain ⟨v, inside, rfl⟩ := List.mem_map.1 mem
      exact ih v inside

/-- The text of an object with simple values is printable. -/
theorem printable_fields {fields : List (List CodePoint × Value)}
    (simple : ∀ f ∈ fields, f.2.Simple) : Text.Printable (fieldsText fields) := by
  refine .cons (by decide) (.append ?_ (Text.printable_of_all rfl))
  refine .intercalate (Text.printable_of_all rfl) ?_
  intro cs mem
  obtain ⟨f, inside, rfl⟩ := List.mem_map.1 mem
  exact (Text.printable_jsonCodes _).append
    (.cons (by decide) (.cons (by decide) (printable_written (simple f inside))))

theorem jsonEntries_named {fields : List (List CodePoint × Value)}
    (simple : ∀ f ∈ fields, f.2.Simple) (room : Nat) :
    Value.jsonEntries room (Value.named fields) =
      if Value.nestingEntries (Value.named fields) ≤ room then
        .ok (fields.map fun f => String.ofList (entryText f))
      else .error .tooDeep := by
  induction fields with
  | nil => exact (if_pos (Nat.zero_le room)).symm
  | cons f fs ih =>
      rw [List.forall_mem_cons] at simple
      have text : Text.jsonCodes f.1 ++ ": " ++ String.ofList f.2.written =
          String.ofList (entryText f) := by
        rw [← String.toList_inj, String.toList_append, String.toList_append, List.append_assoc,
          String.toList_ofList, String.toList_ofList, String.toList_ofList, entryText,
          List.cons_append, List.singleton_append]
      rw [Value.named_cons, Value.jsonEntries, Value.jsonKey_ofCodePoints,
        Value.writtenWithin_of_simple simple.1 room, ih simple.2, List.map_cons, ← text,
        Value.nestingEntries]
      by_cases first : f.2.nesting ≤ room <;>
        by_cases rest : Value.nestingEntries (Value.named fs) ≤ room
      · rw [if_pos first, if_pos rest, if_pos (Nat.max_le.2 ⟨first, rest⟩)]
        rfl
      all_goals simp only [first, rest, Nat.max_le, and_true, and_false, if_true, if_false]
      all_goals rfl

/-- An object with simple values is written if there is room for it and its lists. -/
theorem json_fields {fields : List (List CodePoint × Value)} (simple : ∀ f ∈ fields, f.2.Simple)
    (room : Nat) :
    Value.json room (.map (Value.named fields)) =
      if (Value.map (Value.named fields)).nesting ≤ room then
        .ok (String.ofList (fieldsText fields))
      else .error .tooDeep := by
  have text := Value.ofList_brackets '\x7b' '\x7d' (fields.map entryText)
  rw [List.map_map] at text
  rw [Value.json, Value.nesting]
  cases room with
  | zero => rfl
  | succ room =>
      rw [if_neg (Nat.succ_ne_zero room), Nat.add_sub_cancel, jsonEntries_named simple]
      simp only [Nat.add_le_add_iff_right]
      split
      · exact congrArg Except.ok text
      · rfl

/-- An object is read back from its text, the pairs in its texts joined. -/
theorem decode_fields {fields : List (List CodePoint × Value)} (nonempty : fields ≠ [])
    (simple : ∀ f ∈ fields, f.2.Simple) {room : Nat}
    (fits : (Value.map (Value.named fields)).nesting ≤ room) :
    decode room (String.ofList (fieldsText fields)) =
      some (.ofEntries (Value.named (Value.joinedFields fields))) := by
  have each : ∀ f ∈ fields, ReadsBack f.2 := fun f mem => readsBack_of_simple (simple f mem)
  rw [Value.nesting] at fits
  obtain ⟨inner, rfl⟩ : ∃ inner, room = inner + 1 := ⟨room - 1, by omega⟩
  have inside := Value.nestingEntries_named_le_iff.1 (Nat.le_of_succ_le_succ fits)
  rw [decode, ← String.length_toList, String.toList_ofList, fieldsText, List.length_cons,
    List.length_append, List.length_singleton,
    value?_brace (entries?_intercalate nonempty each inside (Nat.lt_add_one _))]
  rfl

end Json

end Wireform
