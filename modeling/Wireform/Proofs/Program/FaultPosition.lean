import Wireform.Proofs.Program.Forward

/-!
Where unrolling finds fault.

A fault is reported at a position of the program, and what stands there is what the fault is about:
a start for a block that is not closed, an end for one that was never opened. Reading on from a
position, a fault can only lie at a block that was open before or at an instruction that is reached.

* `pointsAt_bodyPass`: the faults of a pass, and the blocks that it leaves open.
* `Reading.pointsAt`: the faults of reading forward.
* `reaches_of_expand_eq_error`: the faults of unrolling a program.
-/

namespace Wireform

namespace Program

/-- In a program that starts at a position, a command of some kind stands at position `n`. -/
def Reaches (kind : Command → Bool) (position : Nat) (p : Program) (n : Nat) : Prop :=
  ∃ m i, n = position + m ∧ p[m]? = some i ∧ kind i.command = true

section Reaches

variable {kind : Command → Bool} {i : Instruction} {position n : Nat} {rest : Program}

theorem reaches_here (h : kind i.command = true) : Reaches kind position (i :: rest) position :=
  ⟨0, i, rfl, rfl, h⟩

theorem reaches_start {count : Nat} (h : i.command = .repeat count) :
    Reaches Command.startsBlock position (i :: rest) position :=
  reaches_here (by rw [h]; rfl)

theorem Reaches.behind (h : Reaches kind (position + 1) rest n) :
    Reaches kind position (i :: rest) n := by
  obtain ⟨m, j, rfl, hj, isKind⟩ := h
  exact ⟨m + 1, j, by omega, hj, isKind⟩

theorem Reaches.behind_drop {k : Nat} (h : Reaches kind (position + k) (rest.drop k) n) :
    Reaches kind position rest n := by
  obtain ⟨m, j, rfl, hj, isKind⟩ := h
  rw [List.getElem?_drop] at hj
  exact ⟨k + m, j, by omega, hj, isKind⟩

end Reaches

/-- Where a pass may point: its fault at the newest open block or at a start that it reaches, and
the blocks that it leaves open at starts that it reaches. -/
def Pass.PointsAt (newest position : Nat) (p : Program) : Except LocatedFault Pass → Prop
  | .ok s => ∀ n ∈ s.opened, Reaches Command.startsBlock position p n
  | .error e => ∃ n : Nat, e = ⟨n, .unmatchedRepeat⟩ ∧
      (n = newest ∨ Reaches Command.startsBlock position p n)

theorem pointsAt_bodyPass (newest position : Nat) (p : Program) :
    Pass.PointsAt newest position p (bodyPass newest position p) := by
  induction p using drop_induction generalizing newest position with
  | nil =>
      rw [bodyPass]
      exact ⟨newest, rfl, .inl rfl⟩
  | cons i rest ih skipped =>
      rcases Command.start_or_end_or_content i.command with ⟨_ | k, hi⟩ | hi | hi
      · rw [bodyPass_repeat_zero hi]
        cases matchingEnd? rest with
        | none => exact ⟨position, rfl, .inr (reaches_start hi)⟩
        | some k =>
            have next := skipped (k + 1) newest (position + 1 + (k + 1))
            dsimp only
            cases tail : bodyPass newest (position + 1 + (k + 1)) (rest.drop (k + 1)) with
            | ok s =>
                rw [tail] at next
                exact fun n mem => (next n mem).behind_drop.behind
            | error e =>
                rw [tail] at next
                obtain ⟨n, rfl, there⟩ := next
                exact ⟨n, rfl, there.imp_right fun far => far.behind_drop.behind⟩
      · rw [bodyPass_repeat_succ hi]
        have next := ih position (position + 1)
        cases tail : bodyPass position (position + 1) rest with
        | ok s =>
            rw [tail] at next
            intro n mem
            rcases List.mem_cons.1 mem with rfl | mem
            · exact reaches_start hi
            · exact (next n mem).behind
        | error e =>
            rw [tail] at next
            obtain ⟨n, rfl, rfl | far⟩ := next
            · exact ⟨n, rfl, .inr (reaches_start hi)⟩
            · exact ⟨n, rfl, .inr far.behind⟩
      · rw [bodyPass_close hi]
        exact fun n mem => absurd mem List.not_mem_nil
      · rw [bodyPass_content hi]
        have next := ih newest (position + 1)
        cases tail : bodyPass newest (position + 1) rest with
        | ok s =>
            rw [tail] at next
            exact fun n mem => (next n mem).behind
        | error e =>
            rw [tail] at next
            obtain ⟨n, rfl, there⟩ := next
            exact ⟨n, rfl, there.imp_right .behind⟩

/-- Where reading on may find fault: with a start that is open before it or that it reaches, or with
an end that it reaches. -/
def PointsAt (stack : List Nat) (position : Nat) (p : Program) : Except LocatedFault Program → Prop
  | .ok _ => True
  | .error e => ∃ n : Nat,
      (e = ⟨n, .unmatchedRepeat⟩ ∧ (n ∈ stack ∨ Reaches Command.startsBlock position p n)) ∨
      (e = ⟨n, .unmatchedEnd⟩ ∧ Reaches Command.endsBlock position p n)

section PointsAt

variable {stack stack' : List Nat} {position position' : Nat} {p p' : Program}
  {r : Except LocatedFault Program}

@[simp] theorem pointsAt_emitting (out : Program) :
    PointsAt stack position p (emitting out r) ↔ PointsAt stack position p r := by
  cases r <;> rfl

/-- What is reached from a later point, and what is open there, was open or is reached before. -/
theorem PointsAt.earlier (h : PointsAt stack' position' p' r)
    (opened : ∀ n ∈ stack', n ∈ stack ∨ Reaches Command.startsBlock position p n)
    (reached : ∀ kind n, Reaches kind position' p' n → Reaches kind position p n) :
    PointsAt stack position p r := by
  cases r with
  | ok out => trivial
  | error e =>
      obtain ⟨n, ⟨rfl, inside | far⟩ | ⟨rfl, far⟩⟩ := h
      · exact ⟨n, .inl ⟨rfl, opened n inside⟩⟩
      · exact ⟨n, .inl ⟨rfl, .inr (reached _ n far)⟩⟩
      · exact ⟨n, .inr ⟨rfl, reached _ n far⟩⟩

theorem Reading.pointsAt (reading : Reading stack position p r) : PointsAt stack position p r := by
  induction reading with
  | finished => trivial
  | @dangling newest older position => exact ⟨newest, .inl ⟨rfl, .inl List.mem_cons_self⟩⟩
  | content _ _ ih =>
      rw [pointsAt_emitting]
      exact ih.earlier (fun _ => .inl) fun _ _ => .behind
  | @skipped stack position i close body rest r starts balanced ends _ ih =>
      refine ih.earlier (fun _ => .inl) fun kind n far => ?_
      -- The block is as long as its body and two more.
      have size : position + (body.length + 2) = position + 1 + (body.length + 1) := by omega
      have behind : rest = (body ++ close :: rest).drop (body.length + 1) := by simp
      rw [size, behind] at far
      exact far.behind_drop.behind
  | @unskippable _ position _ _ starts _ =>
      exact ⟨position, .inl ⟨rfl, .inr (reaches_start starts)⟩⟩
  | nested starts _ ih =>
      refine ih.earlier (fun n mem => ?_) fun _ _ => .behind
      rcases List.mem_cons.1 mem with rfl | mem
      · exact .inr (reaches_start starts)
      · exact .inl mem
  | @unfinished position k i rest e starts pass =>
      have points := pointsAt_bodyPass position (position + 1) rest
      rw [pass] at points
      obtain ⟨n, rfl, rfl | far⟩ := points
      · exact ⟨n, .inl ⟨rfl, .inr (reaches_start starts)⟩⟩
      · exact ⟨n, .inl ⟨rfl, .inr far.behind⟩⟩
  | @outermost position k i rest out opened r starts pass _ ih =>
      rw [pointsAt_emitting]
      refine ih.earlier (fun n mem => .inr ?_) fun _ _ => .behind
      rw [List.mem_reverse, List.mem_cons] at mem
      rcases mem with rfl | mem
      · exact reaches_start starts
      · -- Something was left open, so there was a pass before the last one.
        obtain ⟨again, all, left⟩ := List.mem_flatten.1 mem
        obtain ⟨more, rfl⟩ := List.mem_replicate.1 all
        obtain ⟨output, run⟩ := pass more
        have points := pointsAt_bodyPass position (position + 1) rest
        rw [run] at points
        exact (points n left).behind
  | @surplus position i rest ends =>
      exact ⟨position, .inr ⟨rfl, reaches_here (Command.endsBlock_iff.2 ends)⟩⟩
  | closed _ _ ih =>
      exact ih.earlier (fun _ mem => .inl (List.mem_cons_of_mem _ mem)) fun _ _ => .behind

end PointsAt

/-- A fault of unrolling lies at a start that is not closed or at an end that closes nothing. -/
theorem reaches_of_expand_eq_error {p : Program} {e : LocatedFault} (h : p.expand = .error e) :
    ∃ (n : Nat) (i : Instruction), p[n]? = some i ∧
      ((e = ⟨n, .unmatchedRepeat⟩ ∧ i.command.startsBlock = true) ∨
        (e = ⟨n, .unmatchedEnd⟩ ∧ i.command.endsBlock = true)) := by
  have points := (reading_expand p).pointsAt
  rw [h] at points
  obtain ⟨n, ⟨rfl, inside | far⟩ | ⟨rfl, far⟩⟩ := points
  · exact absurd inside List.not_mem_nil
  · obtain ⟨m, i, rfl, hi, starts⟩ := far
    rw [Nat.zero_add] at *
    exact ⟨m, i, hi, .inl ⟨rfl, starts⟩⟩
  · obtain ⟨m, i, rfl, hi, ends⟩ := far
    rw [Nat.zero_add] at *
    exact ⟨m, i, hi, .inr ⟨rfl, ends⟩⟩

end Program

end Wireform
