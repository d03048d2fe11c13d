import Wireform.Proofs.Program.BlockTree
import Wireform.Proofs.Program.Brackets

/-!
Ends without a partner that unrolling lets through.

An outermost block that is run `k + 1` times reads up to the first end `k` times before it goes on,
and each time it opens the blocks again that start before that end. They stay open, so that many
more ends are needed behind them: ends that have no partner among the brackets. A program is
unrolled if and only if each of its outermost blocks finds just the ends that it needs.

* `Settled`: the programs whose outermost blocks do.
* `Settled.forward_eq_ok` and `Reading.settlesBehind`: they are the ones that are unrolled.
* `Settled.balanced_or_overlaps`: their ends all have partners, unless an outermost block that is
  run at least twice has another start before the first end behind it.
-/

namespace Wireform

namespace Program

/-- How many blocks with a count other than zero start before the first end that is reached, blocks
with count zero being passed over. -/
def startsBeforeEnd : Program → Nat
  | [] => 0
  | i :: rest =>
    match i.command with
    | .repeat 0 =>
      match matchingEnd? rest with
      | none => 0
      | some n => startsBeforeEnd (rest.drop (n + 1))
    | .repeat _ => startsBeforeEnd rest + 1
    | .close => 0
    | _ => startsBeforeEnd rest
termination_by p => p.length
decreasing_by all_goals (simp; try omega)

/-- Rows of content, blocks with count zero and outermost blocks that find the ends they need. A
block that is run `k + 1` times needs its own end and, before it, one for each block that the first
`k` passes leave open. -/
inductive Settled : Program → Prop
  | nil : Settled []
  | content {i : Instruction} {rest : Program} (isContent : i.command.isContent = true)
      (next : Settled rest) : Settled (i :: rest)
  | skipped {i close : Instruction} {body rest : Program} (starts : i.command = .repeat 0)
      (balanced : Balanced body) (ends : close.command = .close) (next : Settled rest) :
      Settled (i :: (body ++ close :: rest))
  | looped {i close : Instruction} {body rest : Program} {k : Nat}
      (starts : i.command = .repeat (k + 1)) (closes : Closes (k * startsBeforeEnd body) body)
      (ends : close.command = .close) (next : Settled rest) :
      Settled (i :: (body ++ close :: rest))

/-- An outermost block that is run at least twice has another start before the first end behind
it. -/
def Overlaps (p : Program) : Prop :=
  ∃ front start rest k, p = front ++ start :: rest ∧ Balanced front ∧
    start.command = .repeat (k + 2) ∧ 0 < startsBeforeEnd rest

/-! ## Programs that close open blocks -/

/-- How a program closes the blocks that are open in front of it, with blocks of count zero taken
as a whole. -/
inductive Closing : Nat → Program → Prop
  | nil : Closing 0 []
  | content {depth : Nat} {i : Instruction} {rest : Program}
      (isContent : i.command.isContent = true) (next : Closing depth rest) :
      Closing depth (i :: rest)
  | skipped {depth : Nat} {i close : Instruction} {body rest : Program}
      (starts : i.command = .repeat 0) (balanced : Balanced body) (ends : close.command = .close)
      (next : Closing depth rest) : Closing depth (i :: (body ++ close :: rest))
  | start {depth k : Nat} {i : Instruction} {rest : Program} (starts : i.command = .repeat (k + 1))
      (next : Closing (depth + 1) rest) : Closing depth (i :: rest)
  | close {depth : Nat} {i : Instruction} {rest : Program} (ends : i.command = .close)
      (next : Closing depth rest) : Closing (depth + 1) (i :: rest)

theorem Closes.closing {depth : Nat} {p : Program} (closes : Closes depth p) : Closing depth p := by
  induction p using drop_induction generalizing depth with
  | nil =>
      obtain rfl := closes_nil.1 closes
      exact .nil
  | cons i rest ih shorter =>
      rcases Command.start_or_end_or_content i.command with ⟨_ | k, hi⟩ | hi | hi
      · have inside : Closes (0 + depth + 1) rest := by
          rw [Nat.zero_add]
          exact (closes_cons_start hi).1 closes
        obtain ⟨body, close, after, rfl, hclose, balanced, behind⟩ := Closes.split 0 depth inside
        have next : Closing depth ((body ++ close :: after).drop (body.length + 1)) :=
          shorter (body.length + 1) (by simpa using behind)
        exact .skipped hi balanced hclose (by simpa using next)
      · exact .start hi (ih ((closes_cons_start hi).1 closes))
      · obtain ⟨d, rfl, behind⟩ := (closes_cons_end hi).1 closes
        exact .close hi (ih behind)
      · exact .content hi (ih ((closes_cons_content hi).1 closes))

section Step

variable {i close : Instruction} {body rest : Program}

theorem startsBeforeEnd_content (h : i.command.isContent = true) :
    startsBeforeEnd (i :: rest) = startsBeforeEnd rest := by
  cases command : i.command <;> simp_all [startsBeforeEnd, Command.isContent]

theorem startsBeforeEnd_skipped (starts : i.command = .repeat 0) (balanced : Balanced body)
    (ends : close.command = .close) :
    startsBeforeEnd (i :: (body ++ close :: rest)) = startsBeforeEnd rest := by
  rw [startsBeforeEnd]
  simp [starts, matchingEnd?_append balanced ends]

theorem startsBeforeEnd_start {k : Nat} (h : i.command = .repeat (k + 1)) :
    startsBeforeEnd (i :: rest) = startsBeforeEnd rest + 1 := by
  simp only [startsBeforeEnd, h]

theorem startsBeforeEnd_close (h : i.command = .close) : startsBeforeEnd (i :: rest) = 0 := by
  simp only [startsBeforeEnd, h]

theorem closes_append {depth : Nat} (balanced : Balanced body) :
    Closes depth (body ++ rest) ↔ Closes depth rest := by
  obtain ⟨tree, rfl⟩ := BlockTree.exists_flatten_eq balanced
  exact tree.closes_flatten_append depth rest

theorem closes_cons_block {depth count : Nat} (starts : i.command = .repeat count)
    (balanced : Balanced body) (ends : close.command = .close) :
    Closes depth (i :: (body ++ close :: rest)) ↔ Closes depth rest := by
  rw [closes_cons_start starts, closes_append balanced, closes_cons_end ends]
  simp

end Step

section Closing

variable {depth : Nat} {body : Program}

/-- A pass over a program that closes blocks, with one more end behind it, comes to an end. -/
theorem Closing.bodyPass_eq_ok (closing : Closing depth body) {close : Instruction}
    (ends : close.command = .close) (newest position : Nat) (rest : Program) :
    ∃ s, bodyPass newest position (body ++ close :: rest) = .ok s ∧
      s.opened.length = startsBeforeEnd body := by
  induction closing generalizing newest position with
  | nil => exact ⟨_, bodyPass_close ends, by rw [startsBeforeEnd]; rfl⟩
  | @content _ i _ isContent _ ih =>
      obtain ⟨s, pass, opened⟩ := ih newest (position + 1)
      refine ⟨s.emit i, ?_, ?_⟩
      · rw [List.cons_append, bodyPass_content isContent, pass]
        rfl
      · rw [startsBeforeEnd_content isContent]
        exact opened
  | @skipped _ _ _ skip _ starts balanced ends' _ ih =>
      obtain ⟨s, pass, opened⟩ := ih newest (position + (skip.length + 2))
      refine ⟨s, ?_, ?_⟩
      · rw [List.cons_append, List.append_assoc, List.cons_append,
          bodyPass_skipped starts balanced ends', pass]
      · rw [startsBeforeEnd_skipped starts balanced ends']
        exact opened
  | start starts _ ih =>
      obtain ⟨s, pass, opened⟩ := ih position (position + 1)
      refine ⟨s.open position, ?_, ?_⟩
      · rw [List.cons_append, bodyPass_repeat_succ starts, pass]
        rfl
      · rw [startsBeforeEnd_start starts, ← opened]
        rfl
  | close ends' _ _ =>
      refine ⟨⟨[], []⟩, ?_, ?_⟩
      · rw [List.cons_append, bodyPass_close ends']
      · rw [startsBeforeEnd_close ends']
        rfl

/-- What lies behind the program and one more end is not looked at. -/
theorem Closing.startsBeforeEnd_append (closing : Closing depth body) {close : Instruction}
    (ends : close.command = .close) (rest : Program) :
    startsBeforeEnd (body ++ close :: rest) = startsBeforeEnd body := by
  induction closing with
  | nil =>
      rw [List.nil_append, startsBeforeEnd_close ends, startsBeforeEnd]
  | content isContent _ ih =>
      rw [List.cons_append, startsBeforeEnd_content isContent, startsBeforeEnd_content isContent,
        ih]
  | skipped starts balanced ends' _ ih =>
      rw [List.cons_append, List.append_assoc, List.cons_append,
        startsBeforeEnd_skipped starts balanced ends',
        startsBeforeEnd_skipped starts balanced ends', ih]
  | start starts _ ih =>
      rw [List.cons_append, startsBeforeEnd_start starts, startsBeforeEnd_start starts, ih]
  | close ends' _ _ =>
      rw [List.cons_append, startsBeforeEnd_close ends', startsBeforeEnd_close ends']

/-- A program that closes blocks, with more of them open in front of it, is read without fault, and
the blocks that it closes are the newest ones. -/
theorem Closing.forward_append (closing : Closing depth body) {stack : List Nat}
    (enough : depth < stack.length) (position : Nat) (rest : Program) :
    ∃ out, forward stack position (body ++ rest) =
      emitting out (forward (stack.drop depth) (position + body.length) rest) := by
  induction closing generalizing stack position with
  | nil => exact ⟨[], by simp⟩
  | @content _ i _ isContent _ ih =>
      obtain ⟨out, read⟩ := ih enough (position + 1)
      refine ⟨i :: out, ?_⟩
      rw [List.cons_append, forward_content isContent, read, emitting_emitting, List.length_cons,
        Nat.add_assoc, Nat.add_comm 1]
      rfl
  | @skipped _ _ _ skip after starts balanced ends _ ih =>
      obtain ⟨out, read⟩ := ih enough (position + (skip.length + 2))
      refine ⟨out, ?_⟩
      rw [List.cons_append, List.append_assoc, List.cons_append,
        forward_skipped starts balanced ends, read]
      congr 2
      simp only [List.length_cons, List.length_append]
      omega
  | start starts _ ih =>
      have inside : stack ≠ [] := List.ne_nil_of_length_pos (Nat.zero_lt_of_lt enough)
      have deeper : _ < (position :: stack).length := Nat.succ_lt_succ enough
      obtain ⟨out, read⟩ := ih deeper (position + 1)
      refine ⟨out, ?_⟩
      rw [List.cons_append, forward_push starts inside, read, List.drop_succ_cons, List.length_cons,
        Nat.add_assoc, Nat.add_comm 1]
  | close ends _ ih =>
      obtain ⟨newest, older, rfl⟩ := List.exists_cons_of_length_pos (Nat.zero_lt_of_lt enough)
      obtain ⟨out, read⟩ := ih (Nat.lt_of_succ_lt_succ enough) (position + 1)
      refine ⟨out, ?_⟩
      rw [List.cons_append, forward_close_cons ends, read, List.drop_succ_cons, List.length_cons,
        Nat.add_assoc, Nat.add_comm 1]

end Closing

/-! ## What is settled is unrolled -/

/-- An outermost block whose passes reach an end: all but the last, and then the last one with the
blocks open that they left open. -/
theorem forward_outermost {i : Instruction} {position k : Nat} {rest : Program} {s : Pass}
    (starts : i.command = .repeat (k + 1)) (pass : bodyPass position (position + 1) rest = .ok s) :
    forward [] position (i :: rest) =
      emitting (List.replicate k s.output).flatten
        (forward (position :: (List.replicate k s.opened).flatten).reverse
          (position + 1) rest) := by
  cases k with
  | zero =>
      rw [forward_open_once starts]
      simp
  | succ k =>
      rw [forward_open starts, pass]
      rfl

theorem Settled.forward_eq_ok {p : Program} (settled : Settled p) (position : Nat) :
    ∃ out, forward [] position p = .ok out := by
  induction settled generalizing position with
  | nil => exact ⟨[], by rw [forward]⟩
  | @content i _ isContent _ ih =>
      obtain ⟨out, read⟩ := ih (position + 1)
      exact ⟨i :: out, by rw [forward_content isContent, read]; rfl⟩
  | @skipped _ _ body _ starts balanced ends _ ih =>
      rw [forward_skipped starts balanced ends]
      exact ih _
  | @looped i close body rest k starts closes ends _ ih =>
      obtain ⟨s, pass, opened⟩ :=
        closes.closing.bodyPass_eq_ok ends position (position + 1) rest
      rw [forward_outermost starts pass]
      -- One more block is open than the body closes: the outermost one itself.
      generalize hstack : (position :: (List.replicate k s.opened).flatten).reverse = stack
      have size : stack.length = k * startsBeforeEnd body + 1 := by
        rw [← hstack, ← opened]
        simp
      obtain ⟨out, read⟩ := closes.closing.forward_append (Nat.lt_of_lt_of_eq (Nat.lt_succ_self _)
        size.symm) (position + 1) (close :: rest)
      obtain ⟨outermost, left⟩ :=
        List.length_eq_one_iff.1 (show (stack.drop (k * startsBeforeEnd body)).length = 1 by
          rw [List.length_drop, size, Nat.add_sub_cancel_left])
      obtain ⟨more, behind⟩ := ih (position + 1 + body.length + 1)
      rw [read, left, forward_close_cons ends, behind]
      exact ⟨_, rfl⟩

/-! ## What is unrolled is settled -/

/-- Behind `depth` open blocks: the program closes them, and what follows is settled. -/
def SettlesBehind (depth : Nat) (p : Program) : Prop :=
  match depth with
  | 0 => Settled p
  | d + 1 => ∃ body close rest, p = body ++ close :: rest ∧ close.command = .close ∧
      Closes d body ∧ Settled rest

theorem Reading.settlesBehind {stack : List Nat} {position : Nat} {p : Program}
    {r : Except LocatedFault Program} (reading : Reading stack position p r) {out : Program}
    (done : r = .ok out) : SettlesBehind stack.length p := by
  induction reading generalizing out with
  | finished => exact .nil
  | dangling => cases done
  | @content stack position i rest r isContent next ih =>
      cases r with
      | error e => cases done
      | ok more =>
          have later := ih rfl
          cases stack with
          | nil => exact .content isContent later
          | cons newest older =>
              obtain ⟨body, close, after, rfl, ends, closes, settled⟩ := later
              exact ⟨i :: body, close, after, rfl, ends, (closes_cons_content isContent).2 closes,
                settled⟩
  | @skipped stack position i close skip rest r starts balanced ends next ih =>
      have later := ih done
      cases stack with
      | nil => exact .skipped starts balanced ends later
      | cons newest older =>
          obtain ⟨body, last, after, rfl, hlast, closes, settled⟩ := later
          exact ⟨i :: (skip ++ close :: body), last, after, by simp, hlast,
            (closes_cons_block starts balanced ends).2 closes, settled⟩
  | unskippable => cases done
  | @nested newest older position k i rest r starts next ih =>
      obtain ⟨body, close, after, rfl, ends, closes, settled⟩ := ih done
      exact ⟨i :: body, close, after, rfl, ends, (closes_cons_start starts).2 closes, settled⟩
  | unfinished => cases done
  | @outermost position k i rest out opened r starts pass next ih =>
      cases r with
      | error e => cases done
      | ok more =>
          have later := ih rfl
          have size : (position :: (List.replicate k opened).flatten).reverse.length =
              k * opened.length + 1 := by simp
          rw [size] at later
          obtain ⟨body, close, after, rfl, ends, closes, settled⟩ := later
          refine .looped starts ?_ ends settled
          cases k with
          | zero => simpa using closes
          | succ k =>
              obtain ⟨output, run⟩ := pass (Nat.succ_ne_zero k)
              obtain ⟨s, again, count⟩ :=
                closes.closing.bodyPass_eq_ok ends position (position + 1) after
              rw [run] at again
              cases again
              rw [← count]
              exact closes
  | surplus => cases done
  | @closed newest older position i rest r ends next ih =>
      have later := ih done
      cases older with
      | nil => exact ⟨[], i, rest, rfl, ends, closes_nil.2 rfl, later⟩
      | cons second older =>
          obtain ⟨body, close, after, rfl, hclose, closes, settled⟩ := later
          exact ⟨i :: body, close, after, rfl, hclose,
            (closes_cons_end ends).2 ⟨_, rfl, closes⟩, settled⟩

/-! ## Surplus ends -/

/-- A balanced part in front makes no difference. -/
theorem balanced_or_overlaps_append {item p : Program} (balanced : Balanced item)
    (h : Balanced p ∨ Overlaps p) : Balanced (item ++ p) ∨ Overlaps (item ++ p) := by
  rcases h with behind | ⟨front, start, rest, k, rfl, hfront, starts, early⟩
  · exact .inl ((closes_append balanced).2 behind)
  · refine .inr
      ⟨item ++ front, start, rest, k, ?_, (closes_append balanced).2 hfront, starts, early⟩
    rw [List.append_assoc]

theorem Settled.balanced_or_overlaps {p : Program} (settled : Settled p) :
    Balanced p ∨ Overlaps p := by
  have block {i close : Instruction} {body rest : Program} {count : Nat}
      (starts : i.command = .repeat count) (balanced : Balanced body)
      (ends : close.command = .close) (h : Balanced rest ∨ Overlaps rest) :
      Balanced (i :: (body ++ close :: rest)) ∨ Overlaps (i :: (body ++ close :: rest)) := by
    have whole : Balanced (i :: (body ++ [close])) :=
      (closes_cons_block starts balanced ends).2 (closes_nil.2 rfl)
    simpa using balanced_or_overlaps_append whole h
  induction settled with
  | nil => exact .inl (closes_nil.2 rfl)
  | @content i _ isContent _ ih =>
      have whole : Balanced [i] := (closes_cons_content isContent).2 (closes_nil.2 rfl)
      exact balanced_or_overlaps_append whole ih
  | skipped starts balanced ends _ ih => exact block starts balanced ends ih
  | @looped i close body rest k starts closes ends _ ih =>
      rcases Nat.eq_zero_or_pos (k * startsBeforeEnd body) with none | some
      · rw [none] at closes
        exact block starts closes ends ih
      · cases k with
        | zero =>
            rw [Nat.zero_mul] at some
            exact absurd some (Nat.lt_irrefl 0)
        | succ k =>
            refine .inr ⟨[], i, body ++ close :: rest, k, rfl, closes_nil.2 rfl, starts, ?_⟩
            rw [closes.closing.startsBeforeEnd_append ends]
            exact Nat.pos_of_mul_pos_left some

theorem unmatchedEnds_of_balanced {p : Program} (balanced : Balanced p) : p.unmatchedEnds = [] := by
  rw [unmatchedEnds, Brackets.read_closes balanced (Nat.zero_le _)]

/-- A program with an end that has no partner is refused, unless it is settled: then its surplus
ends close the blocks that an outermost block leaves open, one that is run at least twice with
another start before the first end behind it. -/
theorem expand_of_unmatchedEnds (p : Program) (surplus : p.unmatchedEnds ≠ []) :
    (¬ p.Settled ∧ ∃ e, p.expand = .error e) ∨
      (p.Settled ∧ p.Overlaps ∧ ∃ out, p.expand = .ok out) := by
  have reading := reading_expand p
  by_cases settled : p.Settled
  · refine .inr ⟨settled, ?_, ?_⟩
    · apply settled.balanced_or_overlaps.resolve_left
      intro balanced
      exact surplus (unmatchedEnds_of_balanced balanced)
    · obtain ⟨out, read⟩ := settled.forward_eq_ok 0
      exact ⟨out, (Walk.run_eq_forward (.start p) rfl).trans read⟩
  · refine .inl ⟨settled, ?_⟩
    cases result : p.expand with
    | error e => exact ⟨e, rfl⟩
    | ok out => exact absurd (reading.settlesBehind result) settled

/-- A block in a block that is run twice, with three ends: two passes open the inner block twice, so
the third end is needed. -/
theorem expand_of_unmatchedEnds_nested :
    unmatchedEnds [⟨.repeat 2, none⟩, ⟨.repeat 1, none⟩, ⟨.close, none⟩, ⟨.close, none⟩,
        ⟨.close, none⟩] ≠ [] ∧
      ∃ out, expand [⟨.repeat 2, none⟩, ⟨.repeat 1, none⟩, ⟨.close, none⟩, ⟨.close, none⟩,
        ⟨.close, none⟩] = .ok out := by
  have early : startsBeforeEnd [⟨.repeat 1, none⟩, ⟨.close, none⟩, ⟨.close, none⟩] = 1 := by
    rw [startsBeforeEnd_start rfl, startsBeforeEnd_close rfl]
  have closes : Closes (1 * startsBeforeEnd [⟨.repeat 1, none⟩, ⟨.close, none⟩, ⟨.close, none⟩])
      [⟨.repeat 1, none⟩, ⟨.close, none⟩, ⟨.close, none⟩] := by
    rw [early]
    decide
  have settled : Settled [⟨.repeat 2, none⟩, ⟨.repeat 1, none⟩, ⟨.close, none⟩, ⟨.close, none⟩,
      ⟨.close, none⟩] := .looped rfl closes rfl .nil
  have surplus : unmatchedEnds [⟨.repeat 2, none⟩, ⟨.repeat 1, none⟩, ⟨.close, none⟩,
      ⟨.close, none⟩, ⟨.close, none⟩] ≠ [] := by decide
  refine ⟨surplus, ?_⟩
  rcases expand_of_unmatchedEnds _ surplus with ⟨refused, -⟩ | ⟨-, -, unrolled⟩
  · exact absurd settled refused
  · exact unrolled

/-- So a program with an end that has no partner may be unrolled. -/
theorem expand_takes_surplus_end :
    unmatchedEnds [⟨.repeat 2, none⟩, ⟨.repeat 1, none⟩, ⟨.unit "mm", none⟩, ⟨.close, none⟩,
        ⟨.close, none⟩, ⟨.close, none⟩] = [5] ∧
      expand [⟨.repeat 2, none⟩, ⟨.repeat 1, none⟩, ⟨.unit "mm", none⟩, ⟨.close, none⟩,
        ⟨.close, none⟩, ⟨.close, none⟩] = .ok [⟨.unit "mm", none⟩, ⟨.unit "mm", none⟩] := by
  refine ⟨by decide, ?_⟩
  iterate 9 refine (Walk.run_next rfl).trans ?_
  exact Walk.run_finished rfl

end Program

end Wireform
