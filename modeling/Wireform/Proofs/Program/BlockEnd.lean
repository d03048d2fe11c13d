import Wireform.Proofs.Program.Nesting

/-!
Where blocks end, by position.

`BlockEndsAt p r j` says what it is for the block that starts at `r` to end at `j`: there is an end
at `j`, behind the start, and what stands between the two is balanced. `blockEnd p r` is the
counting search made from the start at `r`, with a position for its answer and a fault for its
failure.

* `skipBlock?_drop_eq_some_iff`: what the search hands over, in positions of the whole program.
* `blockEnd_eq_ok_iff`, `blockEnd_eq_error_iff`: the search finds the end that the block has, and it
  fails only for a block that has none; so a block has one end at most (`BlockEndsAt.unique`).
* `Walk.step_repeat_zero`: a block with count zero is left by way of that search.
-/

namespace Wireform

namespace Program

/-- The block that starts at `r` ends at `j`. -/
structure BlockEndsAt (p : Program) (r j : Nat) : Prop where
  behind : r < j
  ends : p[j]?.map Instruction.command = some .close
  /-- Between the two there are as many starts as ends, and nowhere more ends than starts so far. -/
  balanced : Balanced (p.extract (r + 1) j)

instance (p : Program) (r j : Nat) : Decidable (BlockEndsAt p r j) :=
  decidable_of_iff
    (r < j ∧ p[j]?.map Instruction.command = some .close ∧ Balanced (p.extract (r + 1) j))
    ⟨fun ⟨behind, ends, balanced⟩ => ⟨behind, ends, balanced⟩,
      fun ⟨behind, ends, balanced⟩ => ⟨behind, ends, balanced⟩⟩

/-- The position of the end of the block that starts at `r`, by the counting search from behind the
start. -/
def blockEnd (p : Program) (r : Nat) : Except LocatedFault Nat :=
  match skipBlock? (p.drop (r + 1)) 0 with
  | none => .error ⟨r, .unmatchedRepeat⟩
  | some (n, _) => .ok (r + n)

section Search

variable {p rest : Program} {r j k n : Nat} {e : LocatedFault}

/-- A block that ends `n` instructions behind its start, as the search sees it: its body, the end
and what follows. -/
theorem BlockEndsAt.drop_eq (h : BlockEndsAt p r (r + n)) :
    ∃ close, close.command = .close ∧ n = (p.extract (r + 1) (r + n)).length + 1 ∧
      p.drop (r + 1) = p.extract (r + 1) (r + n) ++ close :: p.drop (r + n + 1) := by
  obtain ⟨behind, ends, -⟩ := h
  obtain ⟨close, here, isEnd⟩ := Option.map_eq_some_iff.1 ends
  obtain ⟨inside, rfl⟩ := List.getElem?_eq_some_iff.1 here
  refine ⟨p[r + n], isEnd, ?_, ?_⟩
  · rw [List.length_take_of_le (by rw [List.length_drop]; omega)]
    omega
  · have upToEnd : r + 1 + (r + n - (r + 1)) = r + n := by omega
    calc p.drop (r + 1)
        = p.extract (r + 1) (r + n) ++ (p.drop (r + 1)).drop (r + n - (r + 1)) :=
          (List.take_append_drop _ _).symm
      _ = p.extract (r + 1) (r + n) ++ p.drop (r + n) := by rw [List.drop_drop, upToEnd]
      _ = p.extract (r + 1) (r + n) ++ p[r + n] :: p.drop (r + n + 1) := by
          rw [List.drop_eq_getElem_cons inside]

/-- A balanced body and an end behind a start, by position. -/
theorem blockEndsAt_of_drop_eq {body : Program} {close : Instruction}
    (split : p.drop (r + 1) = body ++ close :: rest) (isEnd : close.command = .close)
    (balanced : Balanced body) :
    BlockEndsAt p r (r + (body.length + 1)) ∧ rest = p.drop (r + (body.length + 1) + 1) := by
  have here : p[r + (body.length + 1)]? = some close := by
    rw [Nat.add_comm body.length, ← Nat.add_assoc, ← List.getElem?_drop, split]
    simp
  have between : p.extract (r + 1) (r + (body.length + 1)) = body := by
    have size : r + (body.length + 1) - (r + 1) = body.length := by omega
    rw [List.extract_eq_take_drop, size, split, List.take_left]
  refine ⟨⟨by omega, ?_, ?_⟩, ?_⟩
  · rw [here, Option.map_some, isEnd]
  · rwa [between]
  · have behind : r + (body.length + 1) + 1 = r + 1 + (body.length + 1) := by omega
    rw [behind, ← List.drop_drop, split]
    simp

/-- What the search from behind a start comes to is the end of the block, and what follows it. -/
theorem skipBlock?_drop_eq_some_iff :
    skipBlock? (p.drop (r + 1)) 0 = some (n, rest) ↔
      BlockEndsAt p r (r + n) ∧ rest = p.drop (r + n + 1) := by
  rw [skipBlock?_eq_some_iff]
  constructor
  · rintro ⟨body, close, split, isEnd, rfl, balanced⟩
    exact blockEndsAt_of_drop_eq split isEnd balanced
  · rintro ⟨h, rfl⟩
    obtain ⟨close, isEnd, size, split⟩ := h.drop_eq
    exact ⟨_, close, split, isEnd, size, h.balanced⟩

theorem blockEnd_eq_ok_iff : blockEnd p r = .ok j ↔ BlockEndsAt p r j := by
  constructor
  · intro h
    unfold blockEnd at h
    split at h
    · cases h
    · next n rest found =>
      cases h
      exact (skipBlock?_drop_eq_some_iff.1 found).1
  · intro h
    obtain ⟨n, rfl⟩ := Nat.exists_eq_add_of_le (Nat.le_of_lt h.behind)
    rw [blockEnd, skipBlock?_drop_eq_some_iff.2 ⟨h, rfl⟩]

/-- A block has one end at most, since the search has one answer. -/
theorem BlockEndsAt.unique (h : BlockEndsAt p r j) (h' : BlockEndsAt p r k) : j = k :=
  Except.ok.inj ((blockEnd_eq_ok_iff.2 h).symm.trans (blockEnd_eq_ok_iff.2 h'))

/-- The search fails at the start, and only where the block has no end. -/
theorem blockEnd_eq_error_iff :
    blockEnd p r = .error e ↔ e = ⟨r, .unmatchedRepeat⟩ ∧ ¬∃ j, BlockEndsAt p r j := by
  constructor
  · intro h
    have noEnd : ¬∃ j, BlockEndsAt p r j := by
      rintro ⟨j, ends⟩
      rw [blockEnd_eq_ok_iff.2 ends] at h
      cases h
    unfold blockEnd at h
    split at h
    · cases h
      exact ⟨rfl, noEnd⟩
    · cases h
  · rintro ⟨rfl, noEnd⟩
    cases found : skipBlock? (p.drop (r + 1)) 0 with
    | none => rw [blockEnd, found]
    | some answer => exact absurd ⟨_, (skipBlock?_drop_eq_some_iff.1 found).1⟩ noEnd

/-- From the start of a block with count zero the walk goes on behind the end that the search finds,
and it fails as the search does. -/
theorem Walk.step_repeat_zero (starts : p[r]?.map Instruction.command = some (.repeat 0))
    (blocks : Option OpenBlocks) :
    Walk.step ⟨r, p.drop r, blocks⟩ =
      match blockEnd p r with
      | .ok j => .next ⟨j + 1, p.drop (j + 1), blocks⟩ []
      | .error e => .failed e := by
  obtain ⟨i, here, isStart⟩ := Option.map_eq_some_iff.1 starts
  obtain ⟨inside, rfl⟩ := List.getElem?_eq_some_iff.1 here
  rw [List.drop_eq_getElem_cons inside]
  cases found : skipBlock? (p.drop (r + 1)) 0 with
  | none => simp only [step, stepAt, isStart, found, blockEnd]
  | some answer =>
      obtain ⟨n, after⟩ := answer
      -- What the search leaves over is the program from behind the end on.
      obtain ⟨-, rfl⟩ := skipBlock?_drop_eq_some_iff.1 found
      simp only [step, stepAt, isStart, found, blockEnd, Nat.add_right_comm r 1 n]

end Search

/-- The search from the start of a block finds `j` just if the block ends at `j`. It ends at one `j`
at most, and where it has no end the search fails, with the start as the place of the fault. A block
with count zero is left by way of this search. -/
theorem blockEnd_iff_balanced_between (p : Program) (r : Nat) {count : Nat}
    (starts : p[r]?.map Instruction.command = some (.repeat count)) :
    (∀ j, blockEnd p r = .ok j ↔ BlockEndsAt p r j) ∧
    (∀ j k, BlockEndsAt p r j → BlockEndsAt p r k → j = k) ∧
    (∀ e, blockEnd p r = .error e ↔ e = ⟨r, .unmatchedRepeat⟩ ∧ ¬∃ j, BlockEndsAt p r j) ∧
    (count = 0 → ∀ blocks, Walk.step ⟨r, p.drop r, blocks⟩ =
      match blockEnd p r with
      | .ok j => .next ⟨j + 1, p.drop (j + 1), blocks⟩ []
      | .error e => .failed e) := by
  refine ⟨fun j => blockEnd_eq_ok_iff, fun j k => BlockEndsAt.unique,
    fun e => blockEnd_eq_error_iff, ?_⟩
  rintro rfl blocks
  exact Walk.step_repeat_zero starts blocks

/-- Of two starts in a row the second takes the last end, with a block in front of it; so the first
has none. -/
theorem blockEnd_iff_balanced_between_second_start :
    blockEnd [⟨.repeat 0, none⟩, ⟨.repeat 0, none⟩, ⟨.repeat 2, none⟩, ⟨.close, none⟩,
        ⟨.close, none⟩] 1 = .ok 4 ∧
      Walk.step ⟨1, [⟨.repeat 0, none⟩, ⟨.repeat 2, none⟩, ⟨.close, none⟩, ⟨.close, none⟩],
        none⟩ = .next ⟨5, [], none⟩ [] ∧
      ¬∃ j, BlockEndsAt [⟨.repeat 0, none⟩, ⟨.repeat 0, none⟩, ⟨.repeat 2, none⟩,
        ⟨.close, none⟩, ⟨.close, none⟩] 0 j := by
  obtain ⟨found, -, -, walked⟩ := blockEnd_iff_balanced_between [⟨.repeat 0, none⟩,
    ⟨.repeat 0, none⟩, ⟨.repeat 2, none⟩, ⟨.close, none⟩, ⟨.close, none⟩] 1 rfl
  obtain ⟨-, -, missing, -⟩ := blockEnd_iff_balanced_between [⟨.repeat 0, none⟩,
    ⟨.repeat 0, none⟩, ⟨.repeat 2, none⟩, ⟨.close, none⟩, ⟨.close, none⟩] 0 rfl
  have second := (found 4).2 (by decide)
  refine ⟨second, ?_, ((missing _).1 rfl).2⟩
  have step := walked rfl none
  rw [second] at step
  exact step

end Program

end Wireform
