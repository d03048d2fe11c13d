import Wireform.Proofs.Program.FaultPosition

/-!
Starts and ends that have no partner.

Read as brackets, each start opens a block, whatever its count, and each end closes the newest block
that is open. An end that finds none open has no partner, and neither has a start that is still open
behind the program. Unrolling goes back and opens blocks again that are open already, so it may hold
more of them open than the brackets do. It never holds fewer, and this decides what it can come to:
no start without a partner gets through, and no end that has a partner is refused.

* `Brackets.read_closes`: a part that closes some blocks leaves the ones below them as they were.
* `Reading.bears`: what the brackets say of the result of reading forward.
-/

namespace Wireform

namespace Program

/-- The starts and ends without a partner so far. -/
structure Brackets where
  /-- Where the blocks start that are open, newest first. -/
  opened : List Nat := []
  /-- Where the ends stand that found no block open, newest first. -/
  surplus : List Nat := []
  deriving DecidableEq

namespace Brackets

/-- The brackets with one more instruction, which stands at a position. -/
def next (b : Brackets) (position : Nat) (i : Instruction) : Brackets :=
  match i.command, b.opened with
  | .repeat _, opened => { b with opened := position :: opened }
  | .close, [] => { b with surplus := position :: b.surplus }
  | .close, _ :: older => { b with opened := older }
  | _, _ => b

/-- The brackets with a program that starts at a position. -/
def read (b : Brackets) (position : Nat) : Program → Brackets
  | [] => b
  | i :: rest => (b.next position i).read (position + 1) rest

end Brackets

/-- Where the starts stand that no end closes. -/
def unmatchedStarts (p : Program) : List Nat :=
  (Brackets.read {} 0 p).opened

/-- Where the ends stand that close no start. -/
def unmatchedEnds (p : Program) : List Nat :=
  (Brackets.read {} 0 p).surplus

namespace Brackets

variable {b : Brackets} {position : Nat} {i : Instruction} {p : Program}

/-! ## One more instruction -/

theorem next_start {count : Nat} (h : i.command = .repeat count) :
    b.next position i = { b with opened := position :: b.opened } := by
  simp only [next, h]

theorem next_close_nil (h : i.command = .close) (none : b.opened = []) :
    b.next position i = { b with surplus := position :: b.surplus } := by
  simp only [next, h, none]

theorem next_close_cons {newest : Nat} {older : List Nat} (h : i.command = .close)
    (some : b.opened = newest :: older) : b.next position i = { b with opened := older } := by
  simp only [next, h, some]

theorem next_content (h : i.command.isContent = true) : b.next position i = b := by
  cases command : i.command <;> simp_all [next, Command.isContent]

/-! ## A whole program -/

theorem read_append (q : Program) :
    b.read position (p ++ q) = (b.read position p).read (position + p.length) q := by
  induction p generalizing b position with
  | nil => rfl
  | cons i p ih =>
      rw [List.cons_append, read, read, ih, List.length_cons, Nat.add_assoc, Nat.add_comm 1]

/-- A part that closes `depth` blocks, where as many are open, closes the newest ones, and what it
opens itself has a partner in it. -/
theorem read_closes {depth : Nat} (closes : Closes depth p) (enough : depth ≤ b.opened.length) :
    b.read position p = { b with opened := b.opened.drop depth } := by
  induction p generalizing b position depth with
  | nil =>
      obtain rfl := closes_nil.1 closes
      rfl
  | cons i p ih =>
      rcases Command.start_or_end_or_content i.command with ⟨count, hi⟩ | hi | hi
      · have deeper : depth + 1 ≤ (position :: b.opened).length := Nat.succ_le_succ enough
        rw [read, next_start hi]
        exact ih ((closes_cons_start hi).1 closes) deeper
      · obtain ⟨d, rfl, behind⟩ := (closes_cons_end hi).1 closes
        cases opened : b.opened with
        | nil =>
            rw [opened] at enough
            exact absurd enough (Nat.not_succ_le_zero d)
        | cons newest older =>
            rw [opened] at enough
            rw [read, next_close_cons hi opened, ih behind (Nat.le_of_succ_le_succ enough)]
            rfl
      · rw [read, next_content hi]
        exact ih ((closes_cons_content hi).1 closes) enough

/-- A block with its end makes no difference. -/
theorem read_block {close : Instruction} {body rest : Program} {count : Nat}
    (starts : i.command = .repeat count) (balanced : Balanced body)
    (ends : close.command = .close) :
    b.read position (i :: (body ++ close :: rest)) =
      b.read (position + (body.length + 2)) rest := by
  rw [read, next_start starts, read_append, read_closes balanced (Nat.zero_le _), read,
    next_close_cons ends rfl]
  congr 1
  omega

/-- A surplus end stays one. -/
theorem surplus_read_ne_nil (h : b.surplus ≠ []) : (b.read position p).surplus ≠ [] := by
  induction p generalizing b position with
  | nil => exact h
  | cons i p ih =>
      rw [read]
      apply ih
      rw [next]
      split
      · exact h
      · exact List.cons_ne_nil _ _
      · exact h
      · exact h

/-- What the brackets of a program say of the result of unrolling it: if there is no fault, no block
is open at the end, and an end is at fault only if one is surplus. -/
def Bears (b : Brackets) : Except LocatedFault Program → Prop
  | .ok _ => b.opened = []
  | .error e => e.fault = .unmatchedRepeat ∨ (e.fault = .unmatchedEnd ∧ b.surplus ≠ [])

@[simp] theorem bears_emitting (out : Program) (r : Except LocatedFault Program) :
    b.Bears (emitting out r) ↔ b.Bears r := by
  cases r <;> rfl

end Brackets

/-- As long as at least as many blocks are open as there are open brackets, the brackets say what
reading on can come to. -/
theorem Reading.bears {stack : List Nat} {position : Nat} {p : Program}
    {r : Except LocatedFault Program} (reading : Reading stack position p r) {b : Brackets}
    (covered : b.opened.length ≤ stack.length) : (b.read position p).Bears r := by
  induction reading generalizing b with
  | finished => exact List.eq_nil_of_length_eq_zero (Nat.le_zero.1 covered)
  | dangling => exact .inl rfl
  | content isContent _ ih =>
      rw [Brackets.bears_emitting, Brackets.read, Brackets.next_content isContent]
      exact ih covered
  | skipped starts balanced ends _ ih =>
      rw [Brackets.read_block starts balanced ends]
      exact ih covered
  | unskippable => exact .inl rfl
  | nested starts _ ih =>
      rw [Brackets.read, Brackets.next_start starts]
      exact ih (Nat.succ_le_succ covered)
  | @unfinished position _ _ rest _ _ pass =>
      have points := pointsAt_bodyPass position (position + 1) rest
      rw [pass] at points
      obtain ⟨n, rfl, -⟩ := points
      exact .inl rfl
  | outermost starts _ _ ih =>
      rw [Brackets.bears_emitting, Brackets.read, Brackets.next_start starts]
      -- No bracket was open, so one is now; what earlier passes left open comes on top.
      apply ih
      simp only [List.length_nil, Nat.le_zero, List.length_eq_zero_iff] at covered
      simp [covered]
  | surplus ends =>
      have none : b.opened = [] := List.eq_nil_of_length_eq_zero (Nat.le_zero.1 covered)
      rw [Brackets.read, Brackets.next_close_nil ends none]
      exact .inr ⟨rfl, Brackets.surplus_read_ne_nil (List.cons_ne_nil _ _)⟩
  | closed ends _ ih =>
      rw [Brackets.read]
      cases opened : b.opened with
      | nil =>
          rw [Brackets.next_close_nil ends opened]
          exact ih (by simp [opened])
      | cons newest older =>
          rw [opened] at covered
          rw [Brackets.next_close_cons ends opened]
          exact ih (Nat.le_of_succ_le_succ covered)

/-- A program with a start that has no partner is refused, for a start or for an end; and if all
ends have partners, it is not an end for which it is refused. -/
theorem expand_bears_brackets (p : Program) :
    (p.unmatchedStarts ≠ [] → ∃ e, p.expand = .error e ∧
      (e.fault = .unmatchedRepeat ∨ e.fault = .unmatchedEnd)) ∧
    (p.unmatchedEnds = [] → ∀ e, p.expand = .error e → e.fault ≠ .unmatchedEnd) := by
  have bears : (Brackets.read {} 0 p).Bears p.expand := (reading_expand p).bears (Nat.le_refl 0)
  constructor
  · intro unmatched
    cases result : p.expand with
    | ok out =>
        rw [result] at bears
        exact absurd bears unmatched
    | error e =>
        rw [result] at bears
        exact ⟨e, rfl, bears.imp_right And.left⟩
  · intro matched e result isEnd
    rw [result] at bears
    rcases bears with isStart | ⟨-, unmatched⟩
    · rw [isStart] at isEnd
      cases isEnd
    · exact unmatched matched

/-- With one end too few, the fault is a start. -/
theorem expand_bears_brackets_dangling :
    unmatchedStarts [⟨.repeat 2, none⟩, ⟨.repeat 1, none⟩, ⟨.close, none⟩] ≠ [] ∧
      unmatchedEnds [⟨.repeat 2, none⟩, ⟨.repeat 1, none⟩, ⟨.close, none⟩] = [] ∧
      ∃ e, expand [⟨.repeat 2, none⟩, ⟨.repeat 1, none⟩, ⟨.close, none⟩] = .error e ∧
        e.fault = .unmatchedRepeat := by
  have unmatched : unmatchedStarts [⟨.repeat 2, none⟩, ⟨.repeat 1, none⟩, ⟨.close, none⟩] ≠ [] := by
    decide
  have matched : unmatchedEnds [⟨.repeat 2, none⟩, ⟨.repeat 1, none⟩, ⟨.close, none⟩] = [] := by
    decide
  obtain ⟨refused, notEnd⟩ :=
    expand_bears_brackets [⟨.repeat 2, none⟩, ⟨.repeat 1, none⟩, ⟨.close, none⟩]
  obtain ⟨e, failed, kind⟩ := refused unmatched
  exact ⟨unmatched, matched, e, failed, kind.resolve_right (notEnd matched e failed)⟩

end Program

end Wireform
