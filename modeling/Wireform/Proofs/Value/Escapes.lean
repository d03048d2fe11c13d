import Mathlib.Data.List.Chain
import Wireform.Proofs.Value.Decoding

/-!
The escapes of JSON texts.

A code point is written as it is, behind a backslash, or by its number; a character beyond 16 bits
takes two numbers, those of the halves of its pair. Reading gives the halves, and joining the pairs
gives the characters again, along with every pair whose halves stood side by side on their own.

* `Json.string?_jsonCode`: what is read back from the code points of a text.
* `Text.joinPairs_halves`: the halves of a character make up that character and nothing else.
* `Text.printable_jsonCodes`: the text has no control characters and keeps to ASCII.
-/

namespace Wireform

open Text (CodePoint)

/-! ## Code points as escapes -/

namespace Text

/-- The code points of one or two escapes: a character beyond 16 bits takes the halves of its
pair. -/
def halves : CodePoint → List CodePoint
  | .char c =>
    if c.toNat < 0x10000 then [.char c]
    else [.half (Fin.ofNat 2048 ((c.toNat - 0x10000) / 0x400)),
      .half (Fin.ofNat 2048 (0x400 + (c.toNat - 0x10000) % 0x400))]
  | .half n => [.half n]

theorem val_ofNat_half {k : Nat} (small : k < 2048) : (Fin.ofNat 2048 k).val = k :=
  Nat.mod_eq_of_lt small

/-- One code point of a JSON text. -/
def jsonCode : CodePoint → List Char
  | .char c => jsonChar c
  | .half n => unitEscape (firstHalf + n)

/-- How a character is written: behind a backslash, as it is, or by one or two escapes. -/
inductive Written (c : Char) : List Char → Prop
  | letter {l : Char} (known : Json.escaped? l = some c) (printable : ' ' ≤ l ∧ l ≤ '~')
      (small : c.toNat < 0x10000) : Written c ['\\', l]
  | plain (noQuote : c ≠ '"') (noEscape : c ≠ '\\') (printable : ' ' ≤ c ∧ c ≤ '~')
      (small : c.toNat < 0x10000) : Written c [c]
  | unit (small : c.toNat < 0x10000) : Written c (unitEscape c.toNat)
  | pair (beyond : ¬ c.toNat < 0x10000) :
    Written c (unitEscape (0xd800 + (c.toNat - 0x10000) / 0x400) ++
      unitEscape (0xdc00 + (c.toNat - 0x10000) % 0x400))

theorem written_jsonChar (c : Char) : Written c (jsonChar c) := by
  have letter (l e : Char) (known : Json.escaped? l = some e) (printable : ' ' ≤ l ∧ l ≤ '~')
      (small : e.toNat < 0x10000) {text : List Char} (otherwise : c ≠ e → Written c text) :
      Written c (if c = e then ['\\', l] else text) := by
    by_cases same : c = e
    · rw [if_pos same]
      exact .letter (same ▸ known) printable (same ▸ small)
    · rw [if_neg same]
      exact otherwise same
  unfold jsonChar
  apply letter '"' '"' rfl (by decide) (by decide)
  intro noQuote
  apply letter '\\' '\\' rfl (by decide) (by decide)
  intro noEscape
  apply letter 'n' '\n' rfl (by decide) (by decide)
  intro _
  apply letter 'r' '\r' rfl (by decide) (by decide)
  intro _
  apply letter 't' '\t' rfl (by decide) (by decide)
  intro _
  apply letter 'f' '\x0c' rfl (by decide) (by decide)
  intro _
  apply letter 'b' '\x08' rfl (by decide) (by decide)
  intro _
  by_cases printable : ' ' ≤ c ∧ c ≤ '~'
  · have most : c.toNat ≤ 126 := printable.2
    rw [if_pos printable]
    exact .plain noQuote noEscape printable (by omega)
  rw [if_neg printable]
  by_cases small : c.toNat < 0x10000
  · rw [if_pos small]
    exact .unit small
  · rw [if_neg small]
    exact .pair small

theorem toList_jsonCodes (cs : List CodePoint) :
    (jsonCodes cs).toList = '"' :: (cs.flatMap jsonCode ++ ['"']) := by
  rw [jsonCodes, String.toList_ofList, List.cons_append]
  congr 3

theorem json_eq_jsonCodes (s : String) : json s = jsonCodes (codePoints s) := by
  rw [← String.toList_inj, toList_jsonCodes, json, String.toList_ofList, codePoints,
    List.flatMap_map]
  rfl

end Text

namespace Json

theorem hexDigit?_digitChar {d : Nat} (small : d < 16) :
    Text.hexDigit? (Nat.digitChar d) = some d := by
  have all : ∀ d < 16, Text.hexDigit? (Nat.digitChar d) = some d := by decide
  exact all d small

/-- Four digits in base 16 are read as the number that they were written for. -/
theorem hexValue?_hex {n : Nat} (small : n < 0x10000) :
    Text.hexValue? (Text.hex 4 n) = some n := by
  have digits : Text.hex 4 n = [Nat.digitChar (n / 4096 % 16), Nat.digitChar (n / 256 % 16),
      Nat.digitChar (n / 16 % 16), Nat.digitChar (n / 1 % 16)] := rfl
  have each (k : Nat) : Text.hexDigit? (Nat.digitChar (n / k % 16)) = some (n / k % 16) :=
    hexDigit?_digitChar (Nat.mod_lt _ (by decide))
  rw [digits, Text.hexValue?]
  simp only [List.mapM_cons, List.mapM_nil, each]
  simp
  omega

theorem ofNat?_half (n : Fin 2048) : CodePoint.ofNat? (Text.firstHalf + n) = some (.half n) := by
  have inside : Text.firstHalf ≤ Text.firstHalf + n.val ∧
      Text.firstHalf + n.val < Text.firstHalf + 2048 := by
    omega
  rw [CodePoint.ofNat?, dif_pos inside]
  simp

theorem ofNat?_char {c : Char} : CodePoint.ofNat? c.toNat = some (.char c) := by
  have valid : c.toNat < 0xd800 ∨ 0xdfff < c.toNat ∧ c.toNat < 0x110000 := c.valid
  have outside : ¬ (Text.firstHalf ≤ c.toNat ∧ c.toNat < Text.firstHalf + 2048) := by
    change ¬ (0xd800 ≤ c.toNat ∧ c.toNat < 0xd800 + 2048)
    omega
  rw [CodePoint.ofNat?, dif_neg outside, if_pos (by omega), Char.ofNat_toNat]

/-- An escape by number is read as the code point with that number. -/
theorem string?_unitEscape {n : Nat} (small : n < 0x10000) (cs : List Char) {p : CodePoint}
    (code : CodePoint.ofNat? n = some p) :
    string? (Text.unitEscape n ++ cs) = (string? cs).map fun r => (p :: r.1, r.2) := by
  have read : (Text.hexValue? (Text.hex 4 n)).bind CodePoint.ofNat? = some p := by
    rw [hexValue?_hex small, Option.bind_some, code]
  have step : string? (Text.unitEscape n ++ cs) =
      ((Text.hexValue? (Text.hex 4 n)).bind CodePoint.ofNat?).bind fun p =>
        (string? cs).bind fun r => some (p :: r.1, r.2) := rfl
  rw [step, read, Option.bind_some]
  cases string? cs <;> rfl

theorem string?_escape {l e : Char} (known : escaped? l = some e) (cs : List Char) :
    string? ('\\' :: l :: cs) = (string? cs).map fun r => (.char e :: r.1, r.2) := by
  have step : string? ('\\' :: l :: cs) =
      (escaped? l).bind fun e => (string? cs).bind fun r => some (.char e :: r.1, r.2) := by
    unfold escaped? at known
    split at known
    case h_9 => cases known
    all_goals rfl
  rw [step, known, Option.bind_some]
  cases string? cs <;> rfl

theorem string?_plain {c : Char} (noQuote : c ≠ '"') (noEscape : c ≠ '\\') (plain : ' ' ≤ c)
    (cs : List Char) :
    string? (c :: cs) = (string? cs).map fun r => (.char c :: r.1, r.2) := by
  have step : string? (c :: cs) =
      if c < ' ' then none else (string? cs).bind fun r => some (.char c :: r.1, r.2) := by
    rw [string?.eq_def]
    split
    · next none => cases none
    · next same => exact absurd (List.cons.inj same).1 noQuote
    · next same => exact absurd (List.cons.inj same).1 noEscape
    · next same => exact absurd (List.cons.inj same).1 noEscape
    · next same =>
      obtain ⟨rfl, rfl⟩ := List.cons.inj same
      rfl
  rw [step, if_neg (Char.not_lt.2 plain)]
  cases string? cs <;> rfl

theorem string?_halves (c : Char) (beyond : ¬ c.toNat < 0x10000) (cs : List Char) :
    string? (Text.unitEscape (0xd800 + (c.toNat - 0x10000) / 0x400) ++
        Text.unitEscape (0xdc00 + (c.toNat - 0x10000) % 0x400) ++ cs) =
      (string? cs).map fun r => (Text.halves (.char c) ++ r.1, r.2) := by
  have valid : c.toNat < 0xd800 ∨ 0xdfff < c.toNat ∧ c.toNat < 0x110000 := c.valid
  have number (k n : Nat) (small : k < 2048) (same : n = 0xd800 + k) :
      CodePoint.ofNat? n = some (.half (Fin.ofNat 2048 k)) := by
    have half := ofNat?_half (Fin.ofNat 2048 k)
    rw [Text.val_ofNat_half small] at half
    rw [same]
    exact half
  have first := number ((c.toNat - 0x10000) / 0x400) _ (by omega) rfl
  have second := number (0x400 + (c.toNat - 0x10000) % 0x400)
    (0xdc00 + (c.toNat - 0x10000) % 0x400) (by omega) (by omega)
  rw [List.append_assoc, string?_unitEscape (by omega) _ first,
    string?_unitEscape (by omega) _ second, Option.map_map, Text.halves, if_neg beyond]
  rfl

/-- A character is read from what was written for it. -/
theorem string?_jsonChar (c : Char) (cs : List Char) :
    string? (Text.jsonChar c ++ cs) =
      (string? cs).map fun r => (Text.halves (.char c) ++ r.1, r.2) := by
  have written := Text.written_jsonChar c
  generalize Text.jsonChar c = text at written ⊢
  cases written with
  | letter known _ small =>
      rw [Text.halves, if_pos small]
      exact string?_escape known cs
  | plain noQuote noEscape printable small =>
      rw [Text.halves, if_pos small]
      exact string?_plain noQuote noEscape printable.1 cs
  | unit small =>
      rw [Text.halves, if_pos small]
      exact string?_unitEscape small cs ofNat?_char
  | pair beyond => exact string?_halves c beyond cs

/-- A text is read up to its closing quote. -/
theorem string?_jsonCode (cs : List CodePoint) (rest : List Char) :
    string? (cs.flatMap Text.jsonCode ++ '"' :: rest) = some (cs.flatMap Text.halves, rest) := by
  induction cs with
  | nil => rfl
  | cons p cs ih =>
      rw [List.flatMap_cons, List.append_assoc, List.flatMap_cons]
      cases p with
      | char c =>
          change string? (Text.jsonChar c ++ _) = _
          rw [string?_jsonChar, ih, Option.map_some]
      | half n =>
          have small : Text.firstHalf + n.val < 0x10000 := by
            change 0xd800 + n.val < 0x10000
            omega
          change string? (Text.unitEscape (Text.firstHalf + n) ++ _) = _
          rw [string?_unitEscape small _ (ofNat?_half n), ih, Option.map_some]
          rfl

end Json

/-! ## Pairs of halves -/

namespace Text

theorem pairOf?_char_left (c : Char) (p : CodePoint) : pairOf? (.char c) p = none := by
  cases p <;> rfl

theorem pairOf?_char_right (p : CodePoint) (c : Char) : pairOf? p (.char c) = none := by
  cases p <;> rfl

theorem joinPairs_cons_char (c : Char) (ps : List CodePoint) :
    joinPairs (.char c :: ps) = .char c :: joinPairs ps := by
  cases ps with
  | nil => rfl
  | cons p ps => rw [joinPairs, pairOf?_char_left]

theorem pairOf?_half {a b : Fin 2048} (first : a.val < 0x400) (second : 0x400 ≤ b.val) {c : Char}
    (number : 0x10000 + a.val * 0x400 + (b.val - 0x400) = c.toNat) :
    pairOf? (.half a) (.half b) = some c := by
  rw [pairOf?, if_pos ⟨first, second⟩, number, Char.ofNat_toNat]

/-- The halves of a character make it up. -/
theorem joinPairs_halves_append (c : Char) (ps : List CodePoint) :
    joinPairs (halves (.char c) ++ ps) = .char c :: joinPairs ps := by
  have valid : c.toNat < 0xd800 ∨ 0xdfff < c.toNat ∧ c.toNat < 0x110000 := c.valid
  rw [halves]
  split
  · exact joinPairs_cons_char c ps
  · next beyond =>
    have first : (Fin.ofNat 2048 ((c.toNat - 0x10000) / 0x400)).val =
        (c.toNat - 0x10000) / 0x400 := val_ofNat_half (by omega)
    have second : (Fin.ofNat 2048 (0x400 + (c.toNat - 0x10000) % 0x400)).val =
        0x400 + (c.toNat - 0x10000) % 0x400 := val_ofNat_half (by omega)
    generalize Fin.ofNat 2048 ((c.toNat - 0x10000) / 0x400) = a at first ⊢
    generalize Fin.ofNat 2048 (0x400 + (c.toNat - 0x10000) % 0x400) = b at second ⊢
    have pair : pairOf? (.half a) (.half b) = some c :=
      pairOf?_half (by omega) (by omega) (by omega)
    rw [List.cons_append, List.singleton_append, joinPairs, pair]

/-- Only a second half goes with a first one, and no character starts with it. -/
theorem pairOf?_halves (a : CodePoint) (c : Char) :
    ∃ p ps, halves (.char c) = p :: ps ∧ pairOf? a p = none := by
  have valid : c.toNat < 0xd800 ∨ 0xdfff < c.toNat ∧ c.toNat < 0x110000 := c.valid
  rw [halves]
  split
  · exact ⟨_, _, rfl, pairOf?_char_right a c⟩
  · next beyond =>
    refine ⟨_, _, rfl, ?_⟩
    cases a with
    | char => rfl
    | half n =>
        rw [pairOf?, val_ofNat_half (by omega), if_neg (by omega)]

theorem joinPairs_cons_of_none {a b : CodePoint} (alone : pairOf? a b = none)
    (cs : List CodePoint) : joinPairs (a :: b :: cs) = a :: joinPairs (b :: cs) := by
  rw [joinPairs, alone]

/-- Writing characters by their halves makes no difference once the pairs are joined. -/
theorem joinPairs_halves (cs : List CodePoint) :
    joinPairs (cs.flatMap halves) = joinPairs cs := by
  fun_induction joinPairs cs with
  | case1 a b cs c pair ih =>
      cases a with
      | char => rw [pairOf?_char_left] at pair; cases pair
      | half m =>
          cases b with
          | char => rw [pairOf?_char_right] at pair; cases pair
          | half n =>
              change joinPairs (.half m :: .half n :: cs.flatMap halves) = _
              rw [joinPairs, pair, ih]
  | case2 a b cs alone ih =>
      rw [List.flatMap_cons]
      cases a with
      | char c => rw [joinPairs_halves_append, ih]
      | half m =>
          change joinPairs (.half m :: (b :: cs).flatMap halves) = _
          rw [← ih]
          cases b with
          | half n => exact joinPairs_cons_of_none alone _
          | char c =>
              obtain ⟨p, ps, split, apart⟩ := pairOf?_halves (.half m) c
              rw [List.flatMap_cons, split]
              exact joinPairs_cons_of_none apart _
  | case3 cs short =>
      cases cs with
      | nil => rfl
      | cons a cs =>
          cases cs with
          | cons b cs => exact absurd rfl (short a b cs)
          | nil =>
              cases a with
              | half => rfl
              | char c => exact joinPairs_halves_append c []

theorem joinPairs_codePoints (s : String) : joinPairs (codePoints s) = codePoints s := by
  unfold codePoints
  induction s.toList with
  | nil => rfl
  | cons c cs ih => rw [List.map_cons, joinPairs_cons_char, ih]

/-- Code points of which no first half stands right before a second one stay as they are. -/
theorem joinPairs_of_isChain {cs : List CodePoint}
    (apart : cs.IsChain fun a b => pairOf? a b = none) : joinPairs cs = cs := by
  fun_induction joinPairs cs with
  | case1 a b cs c pair ih =>
      rw [(List.isChain_cons_cons.1 apart).1] at pair
      cases pair
  | case2 a b cs alone ih => rw [ih (List.isChain_cons_cons.1 apart).2]
  | case3 => rfl

theorem ofCodePoints?_codePoints (s : String) : ofCodePoints? (codePoints s) = some s := by
  have chars (cs : List Char) : (cs.map CodePoint.char).mapM CodePoint.char? = some cs := by
    induction cs with
    | nil => rfl
    | cons c cs ih => simp [ih, CodePoint.char?]
  rw [ofCodePoints?, codePoints, chars, Option.map_some, String.ofList_toList]

end Text

/-! ## Printable texts -/

namespace Text

/-- All characters are printable ones of ASCII. -/
def Printable (cs : List Char) : Prop :=
  ∀ c ∈ cs, ' ' ≤ c ∧ c ≤ '~'

theorem printable_of_all {cs : List Char} (all : cs.all fun c => ' ' ≤ c ∧ c ≤ '~') :
    Printable cs :=
  fun c mem => of_decide_eq_true (List.all_eq_true.1 all c mem)

theorem Printable.append {cs ds : List Char} (front : Printable cs) (back : Printable ds) :
    Printable (cs ++ ds) :=
  List.forall_mem_append.2 ⟨front, back⟩

theorem Printable.cons {c : Char} {cs : List Char} (first : ' ' ≤ c ∧ c ≤ '~')
    (rest : Printable cs) : Printable (c :: cs) :=
  List.forall_mem_cons.2 ⟨first, rest⟩

theorem Printable.intercalate {between : List Char} {parts : List (List Char)}
    (separator : Printable between) (each : ∀ cs ∈ parts, Printable cs) :
    Printable (between.intercalate parts) := by
  induction parts with
  | nil => exact List.forall_mem_nil _
  | cons cs parts ih =>
      rw [List.forall_mem_cons] at each
      by_cases last : parts = []
      · rw [last, List.intercalate_singleton]
        exact each.1
      · rw [List.intercalate_cons_of_ne_nil last]
        exact (each.1.append separator).append (ih each.2)

theorem printable_unitEscape (n : Nat) : Printable (unitEscape n) := by
  have digits : ∀ d < 16, ' ' ≤ Nat.digitChar d ∧ Nat.digitChar d ≤ '~' := by decide
  refine .cons (by decide) (.cons (by decide) ?_)
  intro c mem
  obtain ⟨k, -, rfl⟩ := List.mem_map.1 mem
  exact digits _ (Nat.mod_lt _ (by decide))

theorem printable_jsonChar (c : Char) : Printable (jsonChar c) := by
  have written := written_jsonChar c
  generalize jsonChar c = text at written ⊢
  cases written with
  | letter _ printable _ => exact .cons (by decide) (.cons printable (List.forall_mem_nil _))
  | plain _ _ printable _ => exact .cons printable (List.forall_mem_nil _)
  | unit _ => exact printable_unitEscape _
  | pair _ => exact (printable_unitEscape _).append (printable_unitEscape _)

/-- Whatever the code points are, their text is printable. -/
theorem printable_jsonCodes (cs : List CodePoint) : Printable (jsonCodes cs).toList := by
  rw [toList_jsonCodes]
  refine .cons (by decide) (.append ?_ (.cons (by decide) (List.forall_mem_nil _)))
  intro c mem
  obtain ⟨p, -, inside⟩ := List.mem_flatMap.1 mem
  cases p with
  | char d => exact printable_jsonChar d c inside
  | half n => exact printable_unitEscape _ c inside

end Text

end Wireform
