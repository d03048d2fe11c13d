import Wireform.Proofs.Gcode.Block
import Wireform.Proofs.Settings.Validity

/-!
Positions of the pin, as a controller reads them.

The pin is only ever sent to one of two positions, and those are written compactly. A controller
takes plain decimal numbers and knows no exponents. With valid settings a position comes out plain
unless it is not zero and yet less than a ten-thousandth away from it.
-/

namespace Wireform.Gcode

variable {c : Settings} {p : Program}

theorem Emits.pin_mem {before after : Binary64} {i : Instruction} {block : List Line}
    (emits : Emits c before i block after) {z : Binary64} (mem : Line.pin z ∈ block) :
    z = c.pinRaised ∨ z = c.pinLowered := by
  cases emits with
  | crossing => simpa using mem
  | _ => simp at mem

/-- Only a line that moves the pin is read as a word for the pin. -/
theorem Line.eq_pin_of_word {l : Line} {target : String} (h : l.word = .rapid 'Z' target) :
    ∃ z, l = .pin z ∧ target = z.compact := by
  cases l with
  | pin z =>
      cases h
      exact ⟨z, rfl, rfl⟩
  | remark r => cases r <;> cases h
  | travel x =>
      rw [Line.word, Word.rapid.injEq] at h
      exact absurd h.1 (by decide)
  | _ => cases h

/-- The words that move the pin name one of its two positions. -/
theorem pin_position_of_read {lines : List Line} (flat : p.isFlat = true)
    (generated : generate c p = .ok lines) {line target : String}
    (mem : line ∈ lines.map Line.text) (word : Word.read line = .rapid 'Z' target) :
    ∃ z, (z = c.pinRaised ∨ z = c.pinLowered) ∧ target = z.compact := by
  obtain ⟨l, member, rfl⟩ := List.mem_map.1 mem
  rw [Word.read_text] at word
  obtain ⟨z, rfl, rfl⟩ := Line.eq_pin_of_word word
  refine ⟨z, ?_, rfl⟩
  rcases exists_emits_of_mem flat generated member with preamble | blank | origin
  · simp [Machine.preamble] at preamble
  · cases blank
  · obtain ⟨before, i, block, after, -, emits, inBlock⟩ := origin
    exact emits.pin_mem inBlock

/-- Each position to which a flat program sends the pin is a plain decimal number exactly if the
setting that it comes from is not tiny. -/
theorem generate_pin_plain_iff (valid : c.Valid) (flat : p.isFlat = true) :
    ∃ lines, generate c p = .ok lines ∧
      ∀ line ∈ lines.map Line.text, ∀ target, Word.read line = .rapid 'Z' target →
        ∃ z, (z = c.pinRaised ∨ z = c.pinLowered) ∧ target = z.compact ∧
          ((∃ places, Binary64.IsPlain places target.toList) ↔ ¬ z.IsTiny) := by
  obtain ⟨blocks, generated, -⟩ := generate_eq_blocks (c := c) flat
  refine ⟨_, generated, fun line mem target word => ?_⟩
  obtain ⟨z, position, rfl⟩ := pin_position_of_read flat generated mem word
  have finite : z.isFinite = true := by
    rcases position with rfl | rfl
    · exact valid.1 .pinRaised
    · exact valid.1 .pinLowered
  refine ⟨z, position, rfl, ?_⟩
  rw [Binary64.isPlain_compact_iff, finite]
  exact and_iff_right rfl

/-- With the raised pin at the ten-thousandth itself, both positions are plain. -/
theorem generate_pin_plain_iff_least :
    (Settings.stock.set .pinRaised (.ofDecimal false 1 (-4))).Valid ∧
      Program.isFlat [⟨.bend (.ofInt 90), none⟩] = true ∧
      ∃ lines, generate (Settings.stock.set .pinRaised (.ofDecimal false 1 (-4)))
          [⟨.bend (.ofInt 90), none⟩] = .ok lines ∧
        ∀ line ∈ lines.map Line.text, ∀ target, Word.read line = .rapid 'Z' target →
          ∃ places, Binary64.IsPlain places target.toList := by
  have valid : (Settings.stock.set .pinRaised (.ofDecimal false 1 (-4))).Valid :=
    Settings.firstError?_eq_none_iff.1 (by decide +kernel)
  have raised : ¬ (Settings.stock.set .pinRaised (.ofDecimal false 1 (-4))).pinRaised.IsTiny := by
    decide +kernel
  have lowered :
      ¬ (Settings.stock.set .pinRaised (.ofDecimal false 1 (-4))).pinLowered.IsTiny := by
    decide +kernel
  obtain ⟨lines, generated, each⟩ := generate_pin_plain_iff valid
    (p := [⟨.bend (.ofInt 90), none⟩]) rfl
  refine ⟨valid, rfl, lines, generated, fun line mem target word => ?_⟩
  obtain ⟨z, position, -, plain⟩ := each line mem target word
  rcases position with same | same
  · rw [same] at plain
    exact plain.2 raised
  · rw [same] at plain
    exact plain.2 lowered

/-- With the raised pin at a hundred-thousandth, a controller is sent an exponent. -/
theorem generate_pin_exponent :
    (Settings.stock.set .pinRaised (.ofDecimal false 1 (-5))).Valid ∧
      ∃ lines, generate (Settings.stock.set .pinRaised (.ofDecimal false 1 (-5)))
          [⟨.bend (.ofInt 90), none⟩] = .ok lines ∧
        ∃ line ∈ lines.map Line.text, Word.read line = .rapid 'Z' "1e-05" ∧
          ¬ ∃ places, Binary64.IsPlain places "1e-05".toList := by
  have valid : (Settings.stock.set .pinRaised (.ofDecimal false 1 (-5))).Valid :=
    Settings.firstError?_eq_none_iff.1 (by decide +kernel)
  have written : (Binary64.ofDecimal false 1 (-5)).compact = "1e-05" := by decide +kernel
  have moves : ((generate (Settings.stock.set .pinRaised (.ofDecimal false 1 (-5)))
      [⟨.bend (.ofInt 90), none⟩]).toOption.any
        (List.contains · (.pin (.ofDecimal false 1 (-5))))) = true := by
    decide +kernel
  obtain ⟨lines, generated, member⟩ := exists_of_any moves
  have mem := List.mem_map_of_mem (f := Line.text) (List.contains_iff_mem.1 member)
  refine ⟨valid, lines, generated, _, mem, ?_, ?_⟩
  · rw [Word.read_text, Line.word, written]
  · rintro ⟨places, plain⟩
    have shape := plain.of_mem (c := 'e') (by decide)
    revert shape
    decide

end Wireform.Gcode
