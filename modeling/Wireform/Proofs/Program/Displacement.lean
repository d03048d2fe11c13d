import Wireform.Proofs.Program.FaultPosition
import Wireform.Proofs.Refusal

/-!
Programs behind other programs.

Unrolling uses the position of an instruction for one thing only: to say where a fault lies. So a
program that stands further back is unrolled as it would be alone, with its faults as much further
back. And what stands behind a program makes no difference to it, as long as no block is found open
at its end.

* `forward_displaced`: what a program further back comes to.
* `forward_append`: what a program comes to with another one behind it.
-/

namespace Wireform

/-- Where the instruction at a position stands once `size` instructions are put in at `cut`. -/
def Program.displace (cut size n : Nat) : Nat :=
  if n < cut then n else n + size

/-- The fault once `size` instructions are put in at `cut`. -/
def LocatedFault.displace (cut size : Nat) (e : LocatedFault) : LocatedFault :=
  if e.line < cut then e else { e with line := e.line + size }

theorem LocatedFault.displace_mk (cut size n : Nat) (fault : Fault) :
    (mk n fault).displace cut size = ⟨Program.displace cut size n, fault⟩ := by
  by_cases before : n < cut
  · have line : (n : Int) < cut := Int.ofNat_lt.2 before
    simp only [displace, Program.displace, if_pos line, if_pos before]
  · have line : ¬ (n : Int) < cut := mt Int.ofNat_lt.1 before
    simp only [displace, Program.displace, if_neg line, if_neg before, Int.natCast_add]

namespace Program

/-- Induction along a program, by the kind of instruction in front; a block with count zero is taken
as a whole. -/
@[elab_as_elim]
theorem kind_induction {motive : Program → Prop} (nil : motive [])
    (skipped : ∀ (i : Instruction) (body : Program) (close : Instruction) (rest : Program),
      i.command = .repeat 0 → Balanced body → close.command = .close → motive rest →
        motive (i :: (body ++ close :: rest)))
    (unskippable : ∀ (i : Instruction) (rest : Program), i.command = .repeat 0 →
      matchingEnd? rest = none → motive (i :: rest))
    (start : ∀ (i : Instruction) (k : Nat) (rest : Program), i.command = .repeat (k + 1) →
      motive rest → motive (i :: rest))
    (close : ∀ (i : Instruction) (rest : Program), i.command = .close → motive rest →
      motive (i :: rest))
    (content : ∀ (i : Instruction) (rest : Program), i.command.isContent = true → motive rest →
      motive (i :: rest))
    (p : Program) : motive p := by
  induction p using drop_induction with
  | nil => exact nil
  | cons i rest ih shorter =>
      rcases Command.start_or_end_or_content i.command with ⟨_ | k, hi⟩ | hi | hi
      · cases found : matchingEnd? rest with
        | none => exact unskippable i rest hi found
        | some n =>
            obtain ⟨body, last, after, rfl, hlast, rfl, balanced⟩ := split_of_matchingEnd? found
            have behind := shorter (body.length + 1)
            have tail : (body ++ last :: after).drop (body.length + 1) = after := by simp
            rw [tail] at behind
            exact skipped i body last after hi balanced hlast behind
      · exact start i k rest hi ih
      · exact close i rest hi ih
      · exact content i rest hi ih

theorem block_append (i close : Instruction) (body rest q : Program) :
    i :: (body ++ close :: rest) ++ q = i :: (body ++ close :: (rest ++ q)) := by
  rw [List.cons_append, List.append_assoc, List.cons_append]

theorem add_length_block (i close : Instruction) (body rest : Program) (position : Nat) :
    position + (i :: (body ++ close :: rest)).length =
      position + (body.length + 2) + rest.length := by
  rw [List.length_cons, List.length_append, List.length_cons]
  omega

section Unskippable

variable {i : Instruction} {position : Nat} {rest : Program}

theorem bodyPass_unskippable {newest : Nat} (starts : i.command = .repeat 0)
    (unclosed : matchingEnd? rest = none) :
    bodyPass newest position (i :: rest) = .error ⟨position, .unmatchedRepeat⟩ := by
  rw [bodyPass_repeat_zero starts, unclosed]

theorem forward_unskippable {stack : List Nat} (starts : i.command = .repeat 0)
    (unclosed : matchingEnd? rest = none) :
    forward stack position (i :: rest) = .error ⟨position, .unmatchedRepeat⟩ := by
  rw [forward_repeat_zero starts, unclosed]

end Unskippable

variable {cut size position : Nat}

theorem displace_of_le (size : Nat) (h : cut ≤ position) :
    displace cut size position = position + size :=
  if_neg (Nat.not_lt.2 h)

theorem displace_of_lt (size : Nat) (h : position < cut) : displace cut size position = position :=
  if_pos h

/-- The result once `size` instructions that do nothing are put in at `cut`. -/
def displaced (cut size : Nat) : Except LocatedFault Program → Except LocatedFault Program
  | .ok out => .ok out
  | .error e => .error (e.displace cut size)

@[simp] theorem displaced_error (n : Nat) (fault : Fault) :
    displaced cut size (.error ⟨n, fault⟩) = .error ⟨displace cut size n, fault⟩ :=
  congrArg Except.error (LocatedFault.displace_mk cut size n fault)

@[simp] theorem displaced_emitting (out : Program) (r : Except LocatedFault Program) :
    displaced cut size (emitting out r) = emitting out (displaced cut size r) := by
  cases r <;> rfl

/-- The pass once `size` instructions that do nothing are put in at `cut`. -/
def Pass.displaced (cut size : Nat) : Except LocatedFault Pass → Except LocatedFault Pass
  | .ok s => .ok { s with opened := s.opened.map (displace cut size) }
  | .error e => .error (e.displace cut size)

@[simp] theorem Pass.displaced_error (n : Nat) (fault : Fault) :
    displaced cut size (.error ⟨n, fault⟩) = .error ⟨displace cut size n, fault⟩ :=
  congrArg Except.error (LocatedFault.displace_mk cut size n fault)

theorem Pass.displaced_emit (i : Instruction) (r : Except LocatedFault Pass) :
    displaced cut size (r.map (Pass.emit i)) = (displaced cut size r).map (Pass.emit i) := by
  cases r <;> rfl

theorem Pass.displaced_open (n : Nat) (r : Except LocatedFault Pass) :
    displaced cut size (r.map (Pass.open n)) =
      (displaced cut size r).map (Pass.open (displace cut size n)) := by
  cases r <;> rfl

/-! ## A program further back -/

/-- A pass behind the place where instructions are put in. -/
theorem bodyPass_displaced (size newest : Nat) (behind : cut ≤ position) (p : Program) :
    bodyPass (displace cut size newest) (position + size) p =
      Pass.displaced cut size (bodyPass newest position p) := by
  induction p using kind_induction generalizing newest position with
  | nil => simp [bodyPass]
  | skipped i body close rest starts balanced ends ih =>
      rw [bodyPass_skipped starts balanced ends, bodyPass_skipped starts balanced ends,
        ← ih newest (Nat.le_add_right_of_le behind), Nat.add_right_comm]
  | unskippable i rest starts unclosed =>
      rw [bodyPass_unskippable starts unclosed, bodyPass_unskippable starts unclosed,
        Pass.displaced_error, displace_of_le size behind]
  | start i k rest starts ih =>
      rw [bodyPass_repeat_succ starts, bodyPass_repeat_succ starts, Pass.displaced_open,
        ← ih position (Nat.le_succ_of_le behind), displace_of_le size behind, Nat.add_right_comm]
  | close i rest ends _ =>
      rw [bodyPass_close ends, bodyPass_close ends]
      rfl
  | content i rest isContent ih =>
      rw [bodyPass_content isContent, bodyPass_content isContent, Pass.displaced_emit,
        ← ih newest (Nat.le_succ_of_le behind), Nat.add_right_comm]

/-- Reading on behind the place where instructions are put in: the same is put out, and a fault is
found at the same instruction. -/
theorem forward_displaced (size : Nat) (stack : List Nat) (behind : cut ≤ position) (p : Program) :
    forward (stack.map (displace cut size)) (position + size) p =
      displaced cut size (forward stack position p) := by
  induction p using kind_induction generalizing stack position with
  | nil =>
      cases stack with
      | nil => simp [forward, displaced]
      | cons newest older => simp [forward]
  | skipped i body close rest starts balanced ends ih =>
      rw [forward_skipped starts balanced ends, forward_skipped starts balanced ends,
        ← ih stack (Nat.le_add_right_of_le behind), Nat.add_right_comm]
  | unskippable i rest starts unclosed =>
      rw [forward_unskippable starts unclosed, forward_unskippable starts unclosed, displaced_error,
        displace_of_le size behind]
  | start i k rest starts ih =>
      have next : cut ≤ position + 1 := Nat.le_succ_of_le behind
      have here : displace cut size position = position + size := displace_of_le size behind
      cases stack with
      | cons newest older =>
          rw [List.map_cons, forward_push starts (List.cons_ne_nil _ _),
            forward_push starts (List.cons_ne_nil _ _), ← ih _ next, Nat.add_right_comm,
            List.map_cons, List.map_cons, here]
      | nil =>
          cases k with
          | zero =>
              rw [List.map_nil, forward_open_once starts, forward_open_once starts, ← ih _ next,
                Nat.add_right_comm, List.map_singleton, here]
          | succ k =>
              have pass := bodyPass_displaced size position next rest
              rw [here, Nat.add_right_comm] at pass
              rw [List.map_nil, forward_open starts, forward_open starts, pass]
              cases bodyPass position (position + 1) rest with
              | error e => rfl
              | ok s =>
                  change emitting _ _ = displaced cut size (emitting _ _)
                  rw [displaced_emitting, ← ih _ next, Nat.add_right_comm]
                  simp [here, List.map_flatten]
  | close i rest ends ih =>
      cases stack with
      | nil =>
          rw [List.map_nil, forward_close_nil ends, forward_close_nil ends, displaced_error,
            displace_of_le size behind]
      | cons newest older =>
          rw [List.map_cons, forward_close_cons ends, forward_close_cons ends,
            ← ih _ (Nat.le_succ_of_le behind), Nat.add_right_comm]
  | content i rest isContent ih =>
      rw [forward_content isContent, forward_content isContent, displaced_emitting,
        ← ih _ (Nat.le_succ_of_le behind), Nat.add_right_comm]

/-! ## A program with another one behind it -/

/-- A pass that comes to an end does so whatever stands behind the program. -/
theorem bodyPass_append_of_eq_ok {newest : Nat} {p : Program} {s : Pass}
    (h : bodyPass newest position p = .ok s) (q : Program) :
    bodyPass newest position (p ++ q) = .ok s := by
  induction p using kind_induction generalizing newest position s with
  | nil => simp [bodyPass] at h
  | skipped i body close rest starts balanced ends ih =>
      rw [bodyPass_skipped starts balanced ends] at h
      rw [block_append, bodyPass_skipped starts balanced ends]
      exact ih h
  | unskippable i rest starts unclosed =>
      rw [bodyPass_unskippable starts unclosed] at h
      cases h
  | start i k rest starts ih =>
      rw [bodyPass_repeat_succ starts] at h
      obtain ⟨s', tail, rfl⟩ := map_eq_ok_iff.1 h
      rw [List.cons_append, bodyPass_repeat_succ starts, ih tail]
      rfl
  | close i rest ends _ =>
      rw [bodyPass_close ends] at h
      rw [List.cons_append, bodyPass_close ends]
      exact h
  | content i rest isContent ih =>
      rw [bodyPass_content isContent] at h
      obtain ⟨s', tail, rfl⟩ := map_eq_ok_iff.1 h
      rw [List.cons_append, bodyPass_content isContent, ih tail]
      rfl

/-- No block is found open. -/
def NoneOpen (r : Except LocatedFault Program) : Prop :=
  ∀ n : Int, r ≠ .error ⟨n, .unmatchedRepeat⟩

theorem noneOpen_emitting {out : Program} {r : Except LocatedFault Program} :
    NoneOpen (emitting out r) ↔ NoneOpen r := by
  cases r with
  | error e => rfl
  | ok p => simp [NoneOpen]

/-- What a program comes to with another one behind it, which comes to `next` by itself. -/
def followedBy (r next : Except LocatedFault Program) : Except LocatedFault Program :=
  r.bind fun out => emitting out next

theorem followedBy_emitting (out : Program) (r next : Except LocatedFault Program) :
    followedBy (emitting out r) next = emitting out (followedBy r next) := by
  cases r with
  | error e => rfl
  | ok p => exact (emitting_emitting out p next).symm

/-- A program in which no block is found open, with another one behind it: either it comes to a
fault of its own, or the other program is read with no block open. -/
theorem forward_append {stack : List Nat} {p : Program}
    (closed : NoneOpen (forward stack position p)) (q : Program) :
    forward stack position (p ++ q) =
      followedBy (forward stack position p) (forward [] (position + p.length) q) := by
  induction p using kind_induction generalizing stack position with
  | nil =>
      cases stack with
      | nil => simp [forward, followedBy, Except.bind]
      | cons newest older =>
          rw [forward] at closed
          exact absurd rfl (closed newest)
  | skipped i body close rest starts balanced ends ih =>
      rw [forward_skipped starts balanced ends] at closed
      rw [block_append, add_length_block, forward_skipped starts balanced ends,
        forward_skipped starts balanced ends]
      exact ih closed
  | unskippable i rest starts unclosed =>
      rw [forward_unskippable starts unclosed] at closed
      exact absurd rfl (closed position)
  | start i k rest starts ih =>
      rw [List.cons_append, List.length_cons, Nat.add_comm rest.length, ← Nat.add_assoc]
      cases stack with
      | cons newest older =>
          have inside : newest :: older ≠ [] := List.cons_ne_nil _ _
          rw [forward_push starts inside] at closed
          rw [forward_push starts inside, forward_push starts inside]
          exact ih closed
      | nil =>
          cases k with
          | zero =>
              rw [forward_open_once starts] at closed
              rw [forward_open_once starts, forward_open_once starts]
              exact ih closed
          | succ k =>
              rw [forward_open starts] at closed
              rw [forward_open starts, forward_open starts]
              cases pass : bodyPass position (position + 1) rest with
              | error e =>
                  -- A pass that comes to no end finds a block open.
                  have points := pointsAt_bodyPass position (position + 1) rest
                  rw [pass] at points closed
                  obtain ⟨n, rfl, -⟩ := points
                  exact absurd rfl (closed n)
              | ok s =>
                  rw [pass] at closed
                  rw [bodyPass_append_of_eq_ok pass]
                  change emitting _ _ = followedBy (emitting _ _) _
                  rw [followedBy_emitting, ih (noneOpen_emitting.1 closed)]
  | close i rest ends ih =>
      rw [List.cons_append, List.length_cons, Nat.add_comm rest.length, ← Nat.add_assoc]
      cases stack with
      | nil =>
          rw [forward_close_nil ends, forward_close_nil ends]
          rfl
      | cons newest older =>
          rw [forward_close_cons ends] at closed
          rw [forward_close_cons ends, forward_close_cons ends]
          exact ih closed
  | content i rest isContent ih =>
      rw [forward_content isContent, noneOpen_emitting] at closed
      rw [List.cons_append, List.length_cons, Nat.add_comm rest.length, ← Nat.add_assoc,
        forward_content isContent, forward_content isContent, followedBy_emitting, ih closed]

/-- A program that is unrolled, or that comes to an end which closes nothing, does so whatever
stands behind it; and in the first case the program behind it is unrolled as it would be alone. -/
theorem expand_append_of_noneOpen {p : Program} (closed : NoneOpen p.expand) (q : Program) :
    (p ++ q).expand = followedBy p.expand (displaced 0 p.length q.expand) := by
  have unrolled (r : Program) : r.expand = forward [] 0 r := Walk.run_eq_forward (.start r) rfl
  have further : forward [] (0 + p.length) q = displaced 0 p.length (forward [] 0 q) :=
    forward_displaced p.length [] (Nat.le_refl 0) q
  rw [unrolled] at closed
  rw [unrolled, unrolled, unrolled, forward_append closed, further]

theorem line_nonneg_of_expand {p : Program} {e : LocatedFault} (h : p.expand = .error e) :
    0 ≤ e.line := by
  obtain ⟨n, i, -, ⟨rfl, -⟩ | ⟨rfl, -⟩⟩ := reaches_of_expand_eq_error h
  · exact Int.natCast_nonneg n
  · exact Int.natCast_nonneg n

/-- Unrolling two programs in a row. If the first one is unrolled by itself, then the two come to
what the second one comes to: its instructions behind those of the first, or its fault, as much
further back as the first is long. If the first one comes to an end that closes nothing, then the
two come to the same fault. -/
theorem expand_append (p q : Program) :
    (∀ out, p.expand = .ok out →
      (∀ more, q.expand = .ok more → (p ++ q).expand = .ok (out ++ more)) ∧
      (∀ e, q.expand = .error e →
        (p ++ q).expand = .error { e with line := e.line + p.length })) ∧
    (∀ n, p.expand = .error ⟨n, .unmatchedEnd⟩ →
      (p ++ q).expand = .error ⟨n, .unmatchedEnd⟩) := by
  constructor
  · intro out first
    have closed : NoneOpen p.expand := by
      rw [first]
      exact fun n impossible => by cases impossible
    have both := expand_append_of_noneOpen closed q
    rw [first] at both
    constructor
    · intro more second
      rw [both, second]
      rfl
    · intro e second
      rw [both, second]
      exact congrArg Except.error (if_neg (Int.not_lt.2 (line_nonneg_of_expand second)))
  · intro n first
    have closed : NoneOpen p.expand := by
      rw [first]
      exact fun m impossible => by cases impossible
    rw [expand_append_of_noneOpen closed, first]
    rfl

/-- A block that is run twice, with a start in front of another block behind it, whose fault is then
at the fourth instruction; and an end in front of it that closes nothing. -/
theorem expand_append_behind_block :
    expand ([⟨.repeat 2, none⟩, ⟨.unit "mm", none⟩, ⟨.close, none⟩] ++
        [⟨.repeat 1, none⟩, ⟨.unit "mm", none⟩]) = .error ⟨3, .unmatchedRepeat⟩ ∧
      expand ([⟨.repeat 2, none⟩, ⟨.unit "mm", none⟩, ⟨.close, none⟩] ++ [⟨.unit "inch", none⟩]) =
        .ok [⟨.unit "mm", none⟩, ⟨.unit "mm", none⟩, ⟨.unit "inch", none⟩] ∧
      expand ([⟨.close, none⟩] ++ [⟨.repeat 1, none⟩]) = .error ⟨0, .unmatchedEnd⟩ := by
  have block : expand [⟨.repeat 2, none⟩, ⟨.unit "mm", none⟩, ⟨.close, none⟩] =
      .ok [⟨.unit "mm", none⟩, ⟨.unit "mm", none⟩] := by
    iterate 5 refine (Walk.run_next rfl).trans ?_
    exact Walk.run_finished rfl
  have unclosed : expand [⟨.repeat 1, none⟩, ⟨.unit "mm", none⟩] =
      .error ⟨0, .unmatchedRepeat⟩ := by
    iterate 2 refine (Walk.run_next rfl).trans ?_
    exact Walk.run_failed rfl
  have flat : expand [⟨.unit "inch", none⟩] = .ok [⟨.unit "inch", none⟩] := by
    refine (Walk.run_next rfl).trans ?_
    exact Walk.run_finished rfl
  have surplus : expand [⟨.close, none⟩] = .error ⟨0, .unmatchedEnd⟩ := Walk.run_failed rfl
  refine ⟨?_, ?_, ?_⟩
  · exact ((expand_append _ _).1 _ block).2 _ unclosed
  · exact ((expand_append _ _).1 _ block).1 _ flat
  · exact (expand_append _ _).2 _ surplus

end Program

end Wireform
