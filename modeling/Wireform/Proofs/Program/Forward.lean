import Wireform.Proofs.Program.Nesting

/-!
Unrolling without going back.

The walk of `Wireform.Program.Expansion` returns to the start of the oldest open block and counts
its passes. `forward` gives the same result without either: where an outermost block starts, one
look ahead (`bodyPass`) shows what each of the passes but the last puts out and which blocks it
leaves open, and then the program is read on with that many blocks open.

* `Walk.run_bodyPass`: a walk with passes left runs one pass and starts over with one pass less.
* `Walk.run_outermost`: so an outermost block runs all of its passes but the last.
* `Walk.run_eq_forward`: a walk with no pass left is `forward` from where it stands.
* `Reading`: the same, case by case; what holds of every result is shown by induction on it.
-/

namespace Wireform

namespace Program

/-- A result with some instructions put out in front of it. -/
def emitting (out : Program) (r : Except LocatedFault Program) : Except LocatedFault Program :=
  r.map (out ++ ·)

@[simp] theorem emitting_ok (out p : Program) : emitting out (.ok p) = .ok (out ++ p) := rfl

@[simp] theorem emitting_error (out : Program) (e : LocatedFault) :
    emitting out (.error e) = .error e := rfl

@[simp] theorem emitting_nil (r : Except LocatedFault Program) : emitting [] r = r := by
  cases r <;> rfl

@[simp] theorem emitting_emitting (out more : Program) (r : Except LocatedFault Program) :
    emitting out (emitting more r) = emitting (out ++ more) r := by
  cases r with
  | error e => rfl
  | ok p => simp

/-- What one pass over the body of a block comes to when it is to be followed by another. -/
structure Pass where
  /-- The instructions put out on the way. -/
  output : Program
  /-- Where the blocks start that it opened and left open, oldest first. -/
  opened : List Nat

/-- The pass that puts out an instruction first. -/
def Pass.emit (i : Instruction) (s : Pass) : Pass :=
  { s with output := i :: s.output }

/-- The pass that opens a block first. -/
def Pass.open (position : Nat) (s : Pass) : Pass :=
  { s with opened := position :: s.opened }

/-- Reads on from a position up to the first end that is reached, blocks with count zero being
passed over. `newest` is where the newest open block starts: it is at fault if no end is reached. -/
def bodyPass (newest position : Nat) : Program → Except LocatedFault Pass
  | [] => .error ⟨newest, .unmatchedRepeat⟩
  | i :: rest =>
    match i.command with
    | .repeat 0 =>
      match matchingEnd? rest with
      | none => .error ⟨position, .unmatchedRepeat⟩
      | some n => bodyPass newest (position + 1 + (n + 1)) (rest.drop (n + 1))
    | .repeat _ => (bodyPass position (position + 1) rest).map (Pass.open position)
    | .close => .ok ⟨[], []⟩
    | _ => (bodyPass newest (position + 1) rest).map (Pass.emit i)
termination_by p => p.length
decreasing_by all_goals (simp; try omega)

/-- Reads on from a position with the blocks open that start at the positions in `stack`, newest
first; with none open this is the top level. -/
def forward (stack : List Nat) (position : Nat) : Program → Except LocatedFault Program
  | [] =>
    match stack with
    | [] => .ok []
    | newest :: _ => .error ⟨newest, .unmatchedRepeat⟩
  | i :: rest =>
    match i.command, stack with
    | .repeat 0, _ =>
      match matchingEnd? rest with
      | none => .error ⟨position, .unmatchedRepeat⟩
      | some n => forward stack (position + 1 + (n + 1)) (rest.drop (n + 1))
    | .repeat 1, [] => forward [position] (position + 1) rest
    | .repeat (k + 2), [] =>
      match bodyPass position (position + 1) rest with
      | .error e => .error e
      | .ok s =>
        emitting (List.replicate (k + 1) s.output).flatten
          (forward (position :: (List.replicate (k + 1) s.opened).flatten).reverse
            (position + 1) rest)
    | .repeat _, _ :: _ => forward (position :: stack) (position + 1) rest
    | .close, [] => .error ⟨position, .unmatchedEnd⟩
    | .close, _ :: older => forward older (position + 1) rest
    | _, _ => emitting [i] (forward stack (position + 1) rest)
termination_by p => p.length
decreasing_by all_goals (simp; try omega)

namespace Walk

/-! ## A walk and its output -/

variable {w v : Walk} {out more : Program}

theorem run_finished (h : w.step = .finished) : w.run out = .ok out.reverse := by
  rw [run]
  split <;> simp_all

theorem run_failed {e : LocatedFault} (h : w.step = .failed e) : w.run out = .error e := by
  rw [run]
  split <;> simp_all

theorem run_next (h : w.step = .next v more) : w.run out = v.run (more ++ out) := by
  rw [run]
  split <;> simp_all

/-- What was put out earlier does not change what comes after it. -/
theorem run_append (w : Walk) (out earlier : Program) :
    w.run (out ++ earlier) = emitting earlier.reverse (w.run out) := by
  induction w, out using run.induct with
  | case1 w out h => simp [run_finished h]
  | case2 w out e h => simp [run_failed h]
  | case3 w out v more h ih => rw [run_next h, run_next h, ← List.append_assoc, ih]

/-- A step puts its output in front of what the walk puts out from there on. -/
theorem run_nil_of_next (h : w.step = .next v more) :
    w.run [] = emitting more.reverse (v.run []) := by
  rw [run_next h, List.append_nil, ← List.nil_append more, run_append, List.nil_append]

/-! ## One step of a walk, by the kind of instruction -/

section Step

variable {i : Instruction} {position : Nat} {rest : Program} {blocks : Option OpenBlocks}

/-- A step that puts out nothing can be left out. -/
theorem run_of_silent_step (h : w.step = .next v []) : w.run [] = v.run [] := by
  rw [run_next h, List.append_nil]

theorem run_content (h : i.command.isContent = true) :
    (mk position (i :: rest) blocks).run [] =
      emitting [i] ((mk (position + 1) rest blocks).run []) :=
  run_nil_of_next (step_content h position blocks)

/-- A block with count zero is passed over, if it has an end. -/
theorem run_repeat_zero (h : i.command = .repeat 0) :
    (mk position (i :: rest) blocks).run [] =
      match matchingEnd? rest with
      | none => .error ⟨position, .unmatchedRepeat⟩
      | some n => (mk (position + 1 + (n + 1)) (rest.drop (n + 1)) blocks).run [] := by
  have skip := skipBlock?_zero rest
  cases found : matchingEnd? rest with
  | none =>
      rw [found, Option.map_none] at skip
      exact run_failed (by simp only [step, stepAt, h, skip])
  | some n =>
      rw [found, Option.map_some] at skip
      exact run_of_silent_step (by simp only [step, stepAt, h, skip])

theorem run_repeat_succ {k : Nat} (h : i.command = .repeat (k + 1)) :
    (mk position (i :: rest) blocks).run [] =
      (mk (position + 1) rest (some (enterBlock position rest (k + 1) blocks))).run [] :=
  run_of_silent_step (by simp only [step, stepAt, h])

theorem run_close {o : OpenBlocks} (h : i.command = .close) :
    (mk position (i :: rest) (some o)).run [] = (leaveBlock position rest o).run [] :=
  run_of_silent_step (by simp only [step, stepAt, h])

end Step

end Walk

/-- Induction along a program of which parts may be passed over: what holds of the program behind an
instruction, and of whatever it ends with, holds with the instruction in front. -/
@[elab_as_elim]
theorem drop_induction {motive : Program → Prop} (nil : motive [])
    (cons : ∀ i rest, motive rest → (∀ n, motive (rest.drop n)) → motive (i :: rest))
    (p : Program) : motive p := by
  induction size : p.length using Nat.strong_induction_on generalizing p with
  | _ size ih =>
      subst size
      cases p with
      | nil => exact nil
      | cons i rest =>
          have behind (n : Nat) : motive (rest.drop n) := by
            refine ih _ ?_ _ rfl
            simp only [List.length_drop, List.length_cons]
            omega
          exact cons i rest (behind 0) behind

/-! ## Passes that are followed by another -/

section Pass

variable {i : Instruction} {newest position : Nat} {rest : Program}

theorem bodyPass_content (h : i.command.isContent = true) :
    bodyPass newest position (i :: rest) =
      (bodyPass newest (position + 1) rest).map (Pass.emit i) := by
  cases command : i.command <;> simp_all [bodyPass, Command.isContent]

theorem bodyPass_repeat_zero (h : i.command = .repeat 0) :
    bodyPass newest position (i :: rest) =
      match matchingEnd? rest with
      | none => .error ⟨position, .unmatchedRepeat⟩
      | some n => bodyPass newest (position + 1 + (n + 1)) (rest.drop (n + 1)) := by
  simp only [bodyPass, h]

theorem bodyPass_skipped {close : Instruction} {body : Program} (starts : i.command = .repeat 0)
    (balanced : Balanced body) (ends : close.command = .close) :
    bodyPass newest position (i :: (body ++ close :: rest)) =
      bodyPass newest (position + (body.length + 2)) rest := by
  rw [bodyPass_repeat_zero starts, matchingEnd?_append balanced ends]
  have size : position + 1 + (body.length + 1) = position + (body.length + 2) := by omega
  simp [size]

theorem bodyPass_repeat_succ {k : Nat} (h : i.command = .repeat (k + 1)) :
    bodyPass newest position (i :: rest) =
      (bodyPass position (position + 1) rest).map (Pass.open position) := by
  simp only [bodyPass, h]

theorem bodyPass_close (h : i.command = .close) :
    bodyPass newest position (i :: rest) = .ok ⟨[], []⟩ := by
  simp only [bodyPass, h]

end Pass

/-- The newest open block only matters to a pass that fails. -/
theorem bodyPass_eq_ok {newest position : Nat} {p : Program} {s : Pass}
    (h : bodyPass newest position p = .ok s) (newest' : Nat) :
    bodyPass newest' position p = .ok s := by
  induction p using drop_induction generalizing position s with
  | nil => simp [bodyPass] at h
  | cons i rest ih skipped =>
      rcases Command.start_or_end_or_content i.command with ⟨_ | k, hi⟩ | hi | hi
      · rw [bodyPass_repeat_zero hi] at h ⊢
        cases found : matchingEnd? rest with
        | none =>
            rw [found] at h
            cases h
        | some n =>
            rw [found] at h
            exact skipped (n + 1) h
      · rw [bodyPass_repeat_succ hi] at h ⊢
        exact h
      · rw [bodyPass_close hi] at h ⊢
        exact h
      · rw [bodyPass_content hi] at h ⊢
        cases tail : bodyPass newest (position + 1) rest with
        | error e =>
            rw [tail] at h
            cases h
        | ok s' =>
            rw [tail] at h
            rw [ih tail]
            exact h

/-! ## Reading forward, by the kind of instruction -/

section Forward

variable {i : Instruction} {stack : List Nat} {position : Nat} {rest : Program}

theorem forward_content (h : i.command.isContent = true) :
    forward stack position (i :: rest) = emitting [i] (forward stack (position + 1) rest) := by
  cases command : i.command <;> simp_all [forward, Command.isContent]

theorem forward_repeat_zero (h : i.command = .repeat 0) :
    forward stack position (i :: rest) =
      match matchingEnd? rest with
      | none => .error ⟨position, .unmatchedRepeat⟩
      | some n => forward stack (position + 1 + (n + 1)) (rest.drop (n + 1)) := by
  simp only [forward, h]

theorem forward_skipped {close : Instruction} {body : Program} (starts : i.command = .repeat 0)
    (balanced : Balanced body) (ends : close.command = .close) :
    forward stack position (i :: (body ++ close :: rest)) =
      forward stack (position + (body.length + 2)) rest := by
  rw [forward_repeat_zero starts, matchingEnd?_append balanced ends]
  have size : position + 1 + (body.length + 1) = position + (body.length + 2) := by omega
  simp [size]

/-- Inside a block, a start is one more open block, whatever its count. -/
theorem forward_push {k : Nat} (h : i.command = .repeat (k + 1)) (inside : stack ≠ []) :
    forward stack position (i :: rest) = forward (position :: stack) (position + 1) rest := by
  cases stack with
  | nil => exact absurd rfl inside
  | cons newest older => simp [forward, h]

theorem forward_open_once (h : i.command = .repeat 1) :
    forward [] position (i :: rest) = forward [position] (position + 1) rest := by
  simp only [forward, h]

theorem forward_open {k : Nat} (h : i.command = .repeat (k + 2)) :
    forward [] position (i :: rest) =
      (bodyPass position (position + 1) rest).bind fun s =>
        emitting (List.replicate (k + 1) s.output).flatten
          (forward (position :: (List.replicate (k + 1) s.opened).flatten).reverse
            (position + 1) rest) := by
  rw [forward.eq_def]
  simp only [h]
  cases bodyPass position (position + 1) rest <;> rfl

theorem forward_close_nil (h : i.command = .close) :
    forward [] position (i :: rest) = .error ⟨position, .unmatchedEnd⟩ := by
  simp only [forward, h]

theorem forward_close_cons {newest : Nat} (h : i.command = .close) :
    forward (newest :: stack) position (i :: rest) = forward stack (position + 1) rest := by
  simp only [forward, h]

end Forward

/-- How reading forward comes to its result: one case for each kind of instruction that is met. -/
inductive Reading : List Nat → Nat → Program → Except LocatedFault Program → Prop
  /-- The end of the program, with no block open. -/
  | finished {position : Nat} : Reading [] position [] (.ok [])
  /-- The end of the program, with blocks open. -/
  | dangling {newest : Nat} {older : List Nat} {position : Nat} :
      Reading (newest :: older) position [] (.error ⟨newest, .unmatchedRepeat⟩)
  | content {stack : List Nat} {position : Nat} {i : Instruction} {rest : Program}
      {r : Except LocatedFault Program} (isContent : i.command.isContent = true)
      (next : Reading stack (position + 1) rest r) :
      Reading stack position (i :: rest) (emitting [i] r)
  /-- A block with count zero that has an end. -/
  | skipped {stack : List Nat} {position : Nat} {i close : Instruction} {body rest : Program}
      {r : Except LocatedFault Program} (starts : i.command = .repeat 0)
      (balanced : Balanced body) (ends : close.command = .close)
      (next : Reading stack (position + (body.length + 2)) rest r) :
      Reading stack position (i :: (body ++ close :: rest)) r
  /-- A block with count zero that has none. -/
  | unskippable {stack : List Nat} {position : Nat} {i : Instruction} {rest : Program}
      (starts : i.command = .repeat 0) (unclosed : matchingEnd? rest = none) :
      Reading stack position (i :: rest) (.error ⟨position, .unmatchedRepeat⟩)
  /-- A block inside another one. -/
  | nested {newest : Nat} {older : List Nat} {position k : Nat} {i : Instruction} {rest : Program}
      {r : Except LocatedFault Program} (starts : i.command = .repeat (k + 1))
      (next : Reading (position :: newest :: older) (position + 1) rest r) :
      Reading (newest :: older) position (i :: rest) r
  /-- An outermost block that runs at least twice and does not come to an end. -/
  | unfinished {position k : Nat} {i : Instruction} {rest : Program} {e : LocatedFault}
      (starts : i.command = .repeat (k + 2))
      (pass : bodyPass position (position + 1) rest = .error e) :
      Reading [] position (i :: rest) (.error e)
  /-- An outermost block with `k` passes before the last one. -/
  | outermost {position k : Nat} {i : Instruction} {rest out : Program} {opened : List Nat}
      {r : Except LocatedFault Program} (starts : i.command = .repeat (k + 1))
      (pass : k ≠ 0 → ∃ output, bodyPass position (position + 1) rest = .ok ⟨output, opened⟩)
      (next :
        Reading (position :: (List.replicate k opened).flatten).reverse (position + 1) rest r) :
      Reading [] position (i :: rest) (emitting out r)
  /-- An end with no block open. -/
  | surplus {position : Nat} {i : Instruction} {rest : Program} (ends : i.command = .close) :
      Reading [] position (i :: rest) (.error ⟨position, .unmatchedEnd⟩)
  /-- The end of the newest block. -/
  | closed {newest : Nat} {older : List Nat} {position : Nat} {i : Instruction} {rest : Program}
      {r : Except LocatedFault Program} (ends : i.command = .close)
      (next : Reading older (position + 1) rest r) :
      Reading (newest :: older) position (i :: rest) r

theorem reading_forward (stack : List Nat) (position : Nat) (p : Program) :
    Reading stack position p (forward stack position p) := by
  induction p using drop_induction generalizing stack position with
  | nil =>
      cases stack with
      | nil =>
          rw [forward]
          exact .finished
      | cons newest older =>
          rw [forward]
          exact .dangling
  | cons i rest ih skipped =>
      rcases Command.start_or_end_or_content i.command with ⟨_ | k, hi⟩ | hi | hi
      · cases found : matchingEnd? rest with
        | none =>
            rw [forward_repeat_zero hi, found]
            exact .unskippable hi found
        | some n =>
            obtain ⟨body, close, after, rfl, hclose, rfl, balanced⟩ := split_of_matchingEnd? found
            have behind : (body ++ close :: after).drop (body.length + 1) = after := by simp
            have next := skipped (body.length + 1) stack (position + (body.length + 2))
            rw [behind] at next
            rw [forward_skipped hi balanced hclose]
            exact .skipped hi balanced hclose next
      · cases stack with
        | cons newest older =>
            rw [forward_push hi (List.cons_ne_nil _ _)]
            exact .nested hi (ih _ _)
        | nil =>
            cases k with
            | zero =>
                rw [forward_open_once hi, ← emitting_nil (forward _ _ _)]
                have last : Reading (position :: (List.replicate 0 []).flatten).reverse
                    (position + 1) rest (forward [position] (position + 1) rest) := ih _ _
                exact .outermost hi (fun more => absurd rfl more) last
            | succ k =>
                rw [forward_open hi]
                cases pass : bodyPass position (position + 1) rest with
                | error e => exact .unfinished hi pass
                | ok s => exact .outermost hi (fun _ => ⟨s.output, pass⟩) (ih _ _)
      · cases stack with
        | nil =>
            rw [forward_close_nil hi]
            exact .surplus hi
        | cons newest older =>
            rw [forward_close_cons hi]
            exact .closed hi (ih _ _)
      · rw [forward_content hi]
        exact .content hi (ih _ _)

namespace Walk

/-- With a pass left, the walk runs to the first end it reaches and starts the body over with one
pass less, the blocks opened on the way being left open. -/
theorem run_bodyPass {start k : Nat} {body : Program} (later : List Nat) (position : Nat)
    (p : Program) :
    (mk position p (some ⟨start, body, k + 1, later⟩)).run [] =
      (bodyPass (later.headD start) position p).bind fun s =>
        emitting s.output
          ((mk (start + 1) body (some ⟨start, body, k, s.opened.reverse ++ later⟩)).run []) := by
  induction p using drop_induction generalizing later position with
  | nil =>
      rw [run_failed (e := ⟨later.headD start, .unmatchedRepeat⟩) rfl, bodyPass]
      rfl
  | cons i rest ih skipped =>
      rcases Command.start_or_end_or_content i.command with ⟨_ | n, hi⟩ | hi | hi
      · rw [run_repeat_zero hi, bodyPass_repeat_zero hi]
        cases matchingEnd? rest with
        | none => rfl
        | some n => exact skipped (n + 1) later _
      · rw [run_repeat_succ hi, bodyPass_repeat_succ hi, enterBlock, ih]
        change (bodyPass position (position + 1) rest).bind _ = _
        cases bodyPass position (position + 1) rest with
        | error e => rfl
        | ok s => simp [Except.map, Except.bind, Pass.open]
      · rw [run_close hi, bodyPass_close hi, leaveBlock]
        simp [Except.bind]
      · rw [run_content hi, bodyPass_content hi, ih]
        cases bodyPass (later.headD start) (position + 1) rest with
        | error e => rfl
        | ok s => simp [Except.map, Except.bind, Pass.emit]

/-- All passes but the last, where one of them reaches an end: each puts out the same and leaves the
same blocks open. -/
theorem run_passes {start : Nat} {body : Program} {s : Pass}
    (h : bodyPass start (start + 1) body = .ok s) (k : Nat) (later : List Nat) :
    (mk (start + 1) body (some ⟨start, body, k, later⟩)).run [] =
      emitting (List.replicate k s.output).flatten
        ((mk (start + 1) body
          (some ⟨start, body, 0,
            (List.replicate k s.opened).flatten.reverse ++ later⟩)).run []) := by
  induction k generalizing later with
  | zero => simp
  | succ k ih =>
      rw [run_bodyPass, bodyPass_eq_ok h, Except.bind, ih]
      simp [List.replicate_succ]

/-- An outermost block that runs at least twice: its first passes, and then the last one with the
blocks open that they left open. -/
theorem run_outermost (start k : Nat) (body : Program) :
    (mk (start + 1) body (some ⟨start, body, k + 1, []⟩)).run [] =
      (bodyPass start (start + 1) body).bind fun s =>
        emitting (List.replicate (k + 1) s.output).flatten
          ((mk (start + 1) body
            (some ⟨start, body, 0,
              (List.replicate (k + 1) s.opened).flatten.reverse⟩)).run []) := by
  cases pass : bodyPass start (start + 1) body with
  | error e =>
      rw [run_bodyPass, List.headD_nil, pass]
      rfl
  | ok s =>
      rw [run_passes pass, List.append_nil]
      rfl

/-- Where the open blocks start, newest first. -/
def stack (w : Walk) : List Nat :=
  w.blocks.elim [] fun o => o.later ++ [o.start]

/-- A walk with no pass left never goes back: it reads on forward from where it stands. -/
theorem run_eq_forward (w : Walk) (h : w.passesLeft = 0) :
    w.run [] = forward w.stack w.position w.rest := by
  obtain ⟨position, p, blocks⟩ := w
  induction p using drop_induction generalizing position blocks with
  | nil =>
      rcases blocks with _ | ⟨start, body, passes, _ | ⟨newest, later⟩⟩
      · rw [run_finished rfl]
        simp [stack, forward]
      · rw [run_failed (e := ⟨start, .unmatchedRepeat⟩) rfl]
        simp [stack, forward]
      · rw [run_failed (e := ⟨newest, .unmatchedRepeat⟩) rfl]
        simp [stack, forward]
  | cons i rest ih skipped =>
      rcases Command.start_or_end_or_content i.command with ⟨_ | k, hi⟩ | hi | hi
      · rw [run_repeat_zero hi, forward_repeat_zero hi]
        cases matchingEnd? rest with
        | none => rfl
        | some n => exact skipped (n + 1) _ _ h
      · rw [run_repeat_succ hi]
        cases blocks with
        | some o =>
            rw [ih _ _ h]
            exact (forward_push hi (by simp)).symm
        | none =>
            -- The block becomes the oldest one, and `k` passes lie before the one that leaves it.
            cases k with
            | zero =>
                rw [ih _ _ rfl]
                exact (forward_open_once hi).symm
            | succ k =>
                rw [enterBlock, Nat.add_sub_cancel, run_outermost]
                refine Eq.trans ?_ (forward_open hi).symm
                congr 1
                funext s
                rw [ih _ _ rfl, List.reverse_cons]
                rfl
      · cases blocks with
        | none =>
            rw [run_failed (e := ⟨position, .unmatchedEnd⟩) (by simp only [step, stepAt, hi])]
            exact (forward_close_nil hi).symm
        | some o =>
            obtain ⟨start, body, passes, later⟩ := o
            obtain rfl : passes = 0 := h
            rw [run_close hi]
            cases later with
            | nil =>
                rw [leaveBlock, ih _ _ rfl]
                exact (forward_close_cons hi).symm
            | cons newest later =>
                rw [leaveBlock, ih _ _ rfl]
                exact (forward_close_cons hi).symm
      · rw [run_content hi, ih _ _ h]
        exact (forward_content hi).symm

end Walk

theorem reading_expand (p : Program) : Reading [] 0 p p.expand := by
  have same : p.expand = forward [] 0 p := Walk.run_eq_forward (.start p) rfl
  rw [same]
  exact reading_forward [] 0 p

/-- Unrolling a program comes to the same as reading it forward: the same instructions, or the same
fault at the same position. -/
theorem expand_eq_forward (p : Program) : p.expand = forward [] 0 p :=
  Walk.run_eq_forward (.start p) rfl

end Program

end Wireform
