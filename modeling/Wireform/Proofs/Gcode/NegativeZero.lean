import Wireform.Proofs.Binary64.Places
import Wireform.Proofs.Gcode.Coordinate
import Wireform.Proofs.Settings.Validity

/-!
Zeros with a sign.

Positions, and lengths in remarks, lose the sign of a zero before they are rounded, but not
afterwards: a small number below zero comes out as a zero with a sign. `generate_negative_zero_iff`
says for which programs that shows, as a position and in a remark. The two differ in their places,
so a length may show in one and not in the other.
-/

namespace Wireform.Gcode

variable {c : Settings} {p : Program} {x : Binary64}

theorem coordinate_eq_negative_zero_iff : coordinate x = "-0.00000" ↔ x.FadesBelow 5 := by
  have zero : "-0.00000".toList = '-' :: Binary64.pointed 5 0 := by
    rw [String.toList_ofList]
    rfl
  rw [← String.toList_inj, coordinate, zero]
  exact Binary64.fixed_unsignedZero_eq_iff

/-! ## Remarks on lengths -/

theorem Line.text_remark_eq_iff {r : Remark} {s : String} :
    (Line.remark r).text = "(" ++ s ++ ")" ↔ r.text = s := by
  constructor
  · intro same
    have chars : ("(" ++ r.text ++ ")").toList = ("(" ++ s ++ ")").toList := congrArg _ same
    simp only [String.toList_append] at chars
    exact String.toList_inj.1 (List.append_cancel_left (List.append_cancel_right chars))
  · rintro rfl
    rfl

theorem Line.eq_remark_of_word {l : Line} (h : l.word = .remark) : ∃ r, l = .remark r := by
  cases l with
  | remark r => exact ⟨r, rfl⟩
  | _ => cases h

theorem Remark.eq_feed_of_initial {r : Remark} (h : r.initial = 'F') : ∃ x, r = .feed x := by
  cases r with
  | feed x => exact ⟨x, rfl⟩
  | _ => simp [initial] at h

/-- The line that says a length of zero with a sign is fed stands for a length that fades. -/
theorem Line.text_eq_negative_zero_iff {l : Line} :
    l.text = "(Feed -0.000)" ↔ ∃ x, l = .remark (.feed x) ∧ x.FadesBelow 3 := by
  have parts : "(Feed -0.000)" = "(" ++ ("Feed " ++ "-0.000") ++ ")" := by
    simp only [String.reduceAppend]
  have zero : "-0.000".toList = '-' :: Binary64.pointed 3 0 := by
    rw [String.toList_ofList]
    rfl
  have shown (x : Binary64) : (Line.remark (.feed x)).text = "(Feed -0.000)" ↔ x.FadesBelow 3 := by
    rw [parts, Line.text_remark_eq_iff, ← Binary64.fixed_unsignedZero_eq_iff, ← zero,
      String.toList_inj]
    change "Feed " ++ x.unsignedZero.fixed 3 = "Feed " ++ "-0.000" ↔ _
    exact String.append_right_inj _
  constructor
  · intro text
    have word : l.word = .remark := by
      rw [← Word.read_text, text]
      rfl
    obtain ⟨r, rfl⟩ := Line.eq_remark_of_word word
    have first : r.initial = 'F' := by
      have head := r.head?_text
      rw [parts, Line.text_remark_eq_iff] at text
      rw [text] at head
      exact (Option.some.inj head).symm
    obtain ⟨x, rfl⟩ := Remark.eq_feed_of_initial first
    exact ⟨x, rfl, (shown x).1 text⟩
  · rintro ⟨x, rfl, fades⟩
    exact (shown x).2 fades

section Emits

variable {before after : Binary64} {i : Instruction} {block : List Line}

theorem Emits.feed_remark_mem_iff (emits : Emits c before i block after) :
    Line.remark (.feed x) ∈ block ↔ i.command = .feed x := by
  cases emits with
  | feed => simp [eq_comm]
  | _ => simp

end Emits

section Program

variable {lines : List Line}

/-- The remarks on lengths are those on the lengths of the program. -/
theorem feed_remark_mem_iff (flat : p.isFlat = true) (generated : generate c p = .ok lines) :
    Line.remark (.feed x) ∈ lines ↔ ∃ i ∈ p, i.command = .feed x := by
  constructor
  · intro mem
    rcases exists_emits_of_mem flat generated mem with preamble | blank | origin
    · simp [Machine.preamble] at preamble
    · cases blank
    · obtain ⟨before, i, block, after, member, emits, inBlock⟩ := origin
      exact ⟨i, member, emits.feed_remark_mem_iff.1 inBlock⟩
  · rintro ⟨i, mem, feeds⟩
    obtain ⟨before, block, after, emits, inside⟩ :=
      exists_emits_of_mem_program flat generated mem (by simp [feeds])
    exact inside _ (emits.feed_remark_mem_iff.2 feeds)

end Program

/-- A flat program has a zero with a sign among its positions exactly if a number in it, or a
clearance that the head travels to, is below zero by at most half of the fifth place; and it has one
in a remark exactly if it feeds a length that is below zero by at most half of the third. -/
theorem generate_negative_zero_iff (c : Settings) (flat : p.isFlat = true) :
    ∃ lines, generate c p = .ok lines ∧
      ((∃ line ∈ lines.map Line.text, (Word.read line).coordinate? = some "-0.00000") ↔
        (∃ i ∈ p, ∃ x, i.command.amount? = some x ∧ x.FadesBelow 5) ∨
          ∃ x, Line.travel x ∈ lines ∧ (x = c.negativeClearance ∨ x = c.positiveClearance) ∧
            x.FadesBelow 5) ∧
      ("(Feed -0.000)" ∈ lines.map Line.text ↔
        ∃ i ∈ p, ∃ x, i.command = .feed x ∧ x.FadesBelow 3) := by
  obtain ⟨blocks, generated, -⟩ := generate_eq_blocks (c := c) flat
  refine ⟨_, generated, ?_, ?_⟩
  · have positions := exists_coordinate_iff flat generated "-0.00000"
    simp only [eq_comm (a := "-0.00000"), coordinate_eq_negative_zero_iff] at positions
    constructor
    · rintro ⟨_, mem, named⟩
      obtain ⟨l, member, rfl⟩ := List.mem_map.1 mem
      rw [Word.read_text] at named
      rcases positions.1 ⟨l, member, named⟩ with number | ⟨x, travels, fades⟩
      · exact .inl number
      · exact .inr ⟨x, travels, travel_eq flat generated travels, fades⟩
    · intro fading
      have named := positions.2 (fading.imp_right fun ⟨x, travels, _, fades⟩ => ⟨x, travels, fades⟩)
      obtain ⟨l, member, named⟩ := named
      exact ⟨l.text, List.mem_map_of_mem member, by rw [Word.read_text, named]⟩
  · rw [List.mem_map]
    simp only [Line.text_eq_negative_zero_iff]
    constructor
    · rintro ⟨_, member, x, rfl, fades⟩
      obtain ⟨i, mem, feeds⟩ := (feed_remark_mem_iff flat generated).1 member
      exact ⟨i, mem, x, feeds, fades⟩
    · rintro ⟨i, mem, x, feeds, fades⟩
      exact ⟨_, (feed_remark_mem_iff flat generated).2 ⟨i, mem, feeds⟩, x, rfl, fades⟩

/-- Five millionths backwards are rounded to the fifth place, and so show in the remark alone. -/
theorem generate_negative_zero_iff_in_remark :
    Program.isFlat [⟨.feed (.ofDecimal true 5 (-6)), none⟩] = true ∧
      ∃ lines, generate Settings.stock [⟨.feed (.ofDecimal true 5 (-6)), none⟩] = .ok lines ∧
        (¬ ∃ line ∈ lines.map Line.text, (Word.read line).coordinate? = some "-0.00000") ∧
        "(Feed -0.000)" ∈ lines.map Line.text := by
  have fifth : ¬ (Binary64.ofDecimal true 5 (-6)).FadesBelow 5 := by decide +kernel
  have third : (Binary64.ofDecimal true 5 (-6)).FadesBelow 3 := by decide +kernel
  have clear : ¬ Settings.stock.negativeClearance.FadesBelow 5 ∧
      ¬ Settings.stock.positiveClearance.FadesBelow 5 := by decide +kernel
  obtain ⟨lines, generated, position, remark⟩ := generate_negative_zero_iff Settings.stock
    (p := [⟨.feed (.ofDecimal true 5 (-6)), none⟩]) rfl
  refine ⟨rfl, lines, generated, ?_, remark.2 ⟨_, List.mem_singleton_self _, _, rfl, third⟩⟩
  rw [position, not_or]
  constructor
  · rintro ⟨i, mem, x, number, fades⟩
    rw [List.mem_singleton.1 mem] at number
    have same : Binary64.ofDecimal true 5 (-6) = x := Option.some.inj number
    rw [← same] at fades
    exact fifth fades
  · rintro ⟨x, -, same | same, fades⟩
    · rw [same] at fades
      exact clear.1 fades
    · rw [same] at fades
      exact clear.2 fades

/-- A millionth backwards shows as a zero with a sign in both places. -/
theorem generate_negative_zero :
    Settings.stock.Valid ∧ (Binary64.ofDecimal true 1 (-6)).isFinite = true ∧
      ∃ lines, generate Settings.stock [⟨.feed (.ofDecimal true 1 (-6)), none⟩] = .ok lines ∧
        (∃ line ∈ lines.map Line.text, (Word.read line).coordinate? = some "-0.00000") ∧
        "(Feed -0.000)" ∈ lines.map Line.text := by
  have valid := Settings.valid_stock
  have finite : (Binary64.ofDecimal true 1 (-6)).isFinite = true := by decide +kernel
  have fades : (Binary64.ofDecimal true 1 (-6)).FadesBelow 5 ∧
      (Binary64.ofDecimal true 1 (-6)).FadesBelow 3 := by decide +kernel
  have flat : Program.isFlat [⟨.feed (.ofDecimal true 1 (-6)), none⟩] = true := rfl
  obtain ⟨blocks, generated, -⟩ := generate_eq_blocks (c := Settings.stock) flat
  refine ⟨valid, finite, _, generated, ?_, ?_⟩
  · have position := (coordinate_eq_negative_zero_iff.2 fades.1).symm
    obtain ⟨l, member, named⟩ := (exists_coordinate_iff flat generated "-0.00000").2
      (.inl ⟨_, List.mem_singleton_self _, _, rfl, position⟩)
    exact ⟨l.text, List.mem_map_of_mem member, by rw [Word.read_text, named]⟩
  · have member := (feed_remark_mem_iff flat generated).2 ⟨_, List.mem_singleton_self _, rfl⟩
    exact List.mem_map.2 ⟨_, member, Line.text_eq_negative_zero_iff.2 ⟨_, rfl, fades.2⟩⟩

end Wireform.Gcode
