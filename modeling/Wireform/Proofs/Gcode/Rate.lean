import Wireform.Proofs.Binary64.Places
import Wireform.Proofs.Gcode.Block
import Wireform.Proofs.Settings.Validity

/-!
Rates, as a controller reads them.

A move to feed comes with the rate of feeding and a move to bend with the rate of bending, and both
are written with three places. Valid rates are positive, but the check is made before the places are
cut: a rate of at most half a thousandth is sent as zero, and no other one is.
-/

namespace Wireform.Gcode

variable {c : Settings} {p : Program}

/-- Two kinds of lines are read as moves at a rate. -/
theorem Line.cases_of_word_move {l : Line} {axis : Char} {target speed : String}
    (h : l.word = .move axis target speed) :
    ∃ r, speed = rate r ∧
      (axis = 'Y' ∧ (∃ y, l = .feed y r) ∨ axis = 'X' ∧ ∃ x, l = .bend x r) := by
  cases l with
  | feed y r =>
      cases h
      exact ⟨r, rfl, .inl ⟨rfl, y, rfl⟩⟩
  | bend x r =>
      cases h
      exact ⟨r, rfl, .inr ⟨rfl, x, rfl⟩⟩
  | remark r => cases r <;> cases h
  | _ => cases h

section Emits

variable {before after : Binary64} {i : Instruction} {block : List Line} {r : Binary64}

theorem Emits.feed_rate (emits : Emits c before i block after) {y : Binary64}
    (mem : Line.feed y r ∈ block) : r = c.feedRate := by
  cases emits with
  | feed =>
      obtain ⟨-, same⟩ : y = _ ∧ r = _ := by simpa using mem
      exact same
  | _ => simp at mem

theorem Emits.bend_rate (emits : Emits c before i block after) {x : Binary64}
    (mem : Line.bend x r ∈ block) : r = c.bendRate := by
  cases emits with
  | bend | crossing =>
      obtain ⟨-, same⟩ : x = _ ∧ r = _ := by simpa using mem
      exact same
  | _ => simp at mem

end Emits

/-- The rate of a move is the setting for moves of its kind. -/
theorem rate_of_read {lines : List Line} (flat : p.isFlat = true)
    (generated : generate c p = .ok lines) {line : String} {axis : Char} {target speed : String}
    (mem : line ∈ lines.map Line.text) (word : Word.read line = .move axis target speed) :
    ∃ r, speed = rate r ∧ (axis = 'Y' ∧ r = c.feedRate ∨ axis = 'X' ∧ r = c.bendRate) := by
  obtain ⟨l, member, rfl⟩ := List.mem_map.1 mem
  rw [Word.read_text] at word
  obtain ⟨r, written, kind⟩ := Line.cases_of_word_move word
  refine ⟨r, written, ?_⟩
  rcases exists_emits_of_mem flat generated member with preamble | rfl | origin
  · rcases kind with ⟨-, y, rfl⟩ | ⟨-, x, rfl⟩ <;> simp [Machine.preamble] at preamble
  · cases word
  · obtain ⟨before, i, block, after, -, emits, inBlock⟩ := origin
    rcases kind with ⟨feeds, y, rfl⟩ | ⟨bends, x, rfl⟩
    · exact .inl ⟨feeds, emits.feed_rate inBlock⟩
    · exact .inr ⟨bends, emits.bend_rate inBlock⟩

/-- Each rate that a flat program sends is a decimal number with three places, and it is positive
exactly if the setting that it comes from is more than half a thousandth. -/
theorem generate_rate_positive_iff (valid : c.Valid) (flat : p.isFlat = true) :
    ∃ lines, generate c p = .ok lines ∧
      ∀ line ∈ lines.map Line.text, ∀ axis target speed, Word.read line = .move axis target speed →
        ∃ r text, (axis = 'Y' ∧ r = c.feedRate ∨ axis = 'X' ∧ r = c.bendRate) ∧
          speed = "F" ++ text ∧ Binary64.IsPlain 3 text.toList ∧
          (0 < Binary64.decimalValue text.toList ↔ ¬ r.VanishesAt 3) := by
  obtain ⟨blocks, generated, -⟩ := generate_eq_blocks (c := c) flat
  refine ⟨_, generated, fun line mem axis target speed word => ?_⟩
  obtain ⟨r, written, setting⟩ := rate_of_read flat generated mem word
  have checked : r.isFinite = true ∧ r.isPositive = true := by
    rcases setting with ⟨-, rfl⟩ | ⟨-, rfl⟩
    · exact ⟨valid.1 .feedRate, valid.2.1⟩
    · exact ⟨valid.1 .bendRate, valid.2.2⟩
  refine ⟨r, r.fixed 3, setting, written, Binary64.isPlain_fixed_iff.2 checked.1, ?_⟩
  rw [Binary64.decimalValue_fixed_pos_iff checked.1]
  exact and_iff_right checked.2

/-- A rate of five ten-thousandths is just above the half, and is sent as a thousandth. -/
theorem generate_rate_positive_iff_least :
    (Settings.stock.set .feedRate (.ofDecimal false 5 (-4))).Valid ∧
      Program.isFlat [⟨.feed (.ofInt 1), none⟩] = true ∧
      ∃ lines, generate (Settings.stock.set .feedRate (.ofDecimal false 5 (-4)))
          [⟨.feed (.ofInt 1), none⟩] = .ok lines ∧
        ∀ line ∈ lines.map Line.text, ∀ target speed, Word.read line = .move 'Y' target speed →
          ∃ text, speed = "F" ++ text ∧ 0 < Binary64.decimalValue text.toList := by
  have valid : (Settings.stock.set .feedRate (.ofDecimal false 5 (-4))).Valid :=
    Settings.firstError?_eq_none_iff.1 (by decide +kernel)
  have left : ¬ (Settings.stock.set .feedRate (.ofDecimal false 5 (-4))).feedRate.VanishesAt 3 := by
    decide +kernel
  obtain ⟨lines, generated, each⟩ := generate_rate_positive_iff valid
    (p := [⟨.feed (.ofInt 1), none⟩]) rfl
  refine ⟨valid, rfl, lines, generated, fun line mem target speed word => ?_⟩
  obtain ⟨r, text, setting, written, -, positive⟩ := each line mem 'Y' target speed word
  rcases setting with ⟨-, same⟩ | ⟨other, -⟩
  · rw [same] at positive
    exact ⟨text, written, positive.2 left⟩
  · exact absurd other (by decide)

/-- A valid rate of four ten-thousandths is sent as zero. -/
theorem generate_rate_zero :
    (Settings.stock.set .feedRate (.ofDecimal false 4 (-4))).Valid ∧
      ∃ lines, generate (Settings.stock.set .feedRate (.ofDecimal false 4 (-4)))
          [⟨.feed (.ofInt 1), none⟩] = .ok lines ∧
        ∃ line ∈ lines.map Line.text, Word.read line = .move 'Y' "1.00000" "F0.000" ∧
          ¬ 0 < Binary64.decimalValue "0.000".toList := by
  have valid : (Settings.stock.set .feedRate (.ofDecimal false 4 (-4))).Valid :=
    Settings.firstError?_eq_none_iff.1 (by decide +kernel)
  have position : coordinate (.ofInt 1) = "1.00000" := by decide +kernel
  have written : rate (.ofDecimal false 4 (-4)) = "F0.000" := by decide +kernel
  have moves : ((generate (Settings.stock.set .feedRate (.ofDecimal false 4 (-4)))
      [⟨.feed (.ofInt 1), none⟩]).toOption.any
        (List.contains · (.feed (.ofInt 1) (.ofDecimal false 4 (-4))))) = true := by
    decide +kernel
  obtain ⟨lines, generated, member⟩ := exists_of_any moves
  have mem := List.mem_map_of_mem (f := Line.text) (List.contains_iff_mem.1 member)
  refine ⟨valid, lines, generated, _, mem, ?_, ?_⟩
  · rw [Word.read_text, Line.word, position, written]
  · rw [not_lt]
    decide +kernel

end Wireform.Gcode
