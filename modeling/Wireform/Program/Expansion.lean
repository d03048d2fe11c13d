import Wireform.Program.Fault
import Wireform.Program.Instruction

/-!
Unrolling of repeat blocks.

The program is walked from front to back with the blocks that are open. The end of a block looks
at the *oldest* open block: while that one has passes left it uses one up and goes back to the
start of its body; once it has none, the newest open block is closed. So blocks in a row run as
often as they say, while a block inside another one runs as often as the outer one lets it. A block
with count zero is passed over up to its own end.
-/

namespace Wireform

namespace Program

/-- The rest behind the end that closes the block whose body the text starts with, `depth` blocks
being open inside it; and the number of instructions up to there. -/
def skipBlock? : Program → Nat → Option (Nat × Program)
  | [], _ => none
  | i :: rest, depth =>
    match i.command, depth with
    | .repeat _, _ => (skipBlock? rest (depth + 1)).map fun r => (r.1 + 1, r.2)
    | .close, 0 => some (1, rest)
    | .close, depth + 1 => (skipBlock? rest depth).map fun r => (r.1 + 1, r.2)
    | _, _ => (skipBlock? rest depth).map fun r => (r.1 + 1, r.2)

theorem skipBlock?_length {p rest : Program} {depth n : Nat}
    (h : skipBlock? p depth = some (n, rest)) : rest.length < p.length := by
  induction p generalizing depth n with
  | nil => simp [skipBlock?] at h
  | cons i p ih =>
    have shorter {d m : Nat}
        (hs : (skipBlock? p d).map (fun r => (r.1 + 1, r.2)) = some (m, rest)) :
        rest.length < (i :: p).length := by
      obtain ⟨⟨k, tail⟩, hk, he⟩ := Option.map_eq_some_iff.1 hs
      obtain ⟨-, rfl⟩ := Prod.mk.inj he
      exact Nat.lt_succ_of_lt (ih hk)
    unfold skipBlock? at h
    split at h
    · exact shorter h
    · obtain ⟨-, rfl⟩ := Prod.mk.inj (Option.some.inj h)
      exact Nat.lt_succ_self _
    · exact shorter h
    · exact shorter h

/-- The blocks that are open: the oldest one with what it takes to run it again, and where the
later ones start, newest first. -/
structure OpenBlocks where
  /-- Where the oldest open block starts. -/
  start : Nat
  /-- What follows its start. -/
  body : Program
  /-- How many more times the body is to be entered. -/
  passes : Nat
  /-- Where the later open blocks start, newest first. -/
  later : List Nat := []

/-- Where the newest open block starts. -/
def OpenBlocks.newest (o : OpenBlocks) : Nat :=
  o.later.headD o.start

/-- A point of the walk. -/
structure Walk where
  /-- How many instructions lie before the point. -/
  position : Nat
  /-- The instructions from the point on. -/
  rest : Program
  /-- The open blocks, if any. -/
  blocks : Option OpenBlocks := none

/-- Where the walk starts. -/
def Walk.start (p : Program) : Walk :=
  ⟨0, p, none⟩

/-- What one step of the walk comes to. -/
inductive Step where
  /-- The walk goes on, having put out the instructions given. -/
  | next (w : Walk) (out : Program)
  /-- The end of the program, with no block open. -/
  | finished
  | failed (e : LocatedFault)

namespace Walk

/-- Passes that the oldest open block has left. -/
def passesLeft (w : Walk) : Nat :=
  match w.blocks with
  | none => 0
  | some o => o.passes

/-- How far the walk still has to go when no pass is left: it shrinks whenever the blocks that are
open have run out, and never grows. -/
def span (w : Walk) : Nat :=
  match w.blocks with
  | none => 2 * w.rest.length + 1
  | some o => 2 * max (o.body.length + 1) w.rest.length

/-- Where the walk goes from the end of a block when `o` is open. -/
def leaveBlock (position : Nat) (rest : Program) (o : OpenBlocks) : Walk :=
  match o.passes, o.later with
  | k + 1, _ => ⟨o.start + 1, o.body, some { o with passes := k }⟩
  | 0, _ :: later => ⟨position + 1, rest, some { o with later }⟩
  | 0, [] => ⟨position + 1, rest, none⟩

/-- The blocks that are open behind the start of one with passes. -/
def enterBlock (position : Nat) (rest : Program) (count : Nat) : Option OpenBlocks → OpenBlocks
  | none => ⟨position, rest, count - 1, []⟩
  | some o => { o with later := position :: o.later }

/-- Where the walk goes from an instruction. -/
def stepAt (position : Nat) (blocks : Option OpenBlocks) (i : Instruction) (rest : Program) :
    Step :=
  match i.command with
  | .repeat 0 =>
    match skipBlock? rest 0 with
    | none => .failed ⟨position, .unmatchedRepeat⟩
    | some (n, after) => .next ⟨position + 1 + n, after, blocks⟩ []
  | .repeat count => .next ⟨position + 1, rest, some (enterBlock position rest count blocks)⟩ []
  | .close =>
    match blocks with
    | none => .failed ⟨position, .unmatchedEnd⟩
    | some o => .next (leaveBlock position rest o) []
  | _ => .next ⟨position + 1, rest, blocks⟩ [i]

/-- One step of the walk. -/
def step : Walk → Step
  | ⟨_, [], none⟩ => .finished
  | ⟨_, [], some o⟩ => .failed ⟨o.newest, .unmatchedRepeat⟩
  | ⟨position, i :: rest, blocks⟩ => stepAt position blocks i rest

/-- The span shrinks, or it stays and a pass is used up, or both stay and the rest gets shorter. -/
def Nearer (v w : Walk) : Prop :=
  v.span < w.span ∨ (v.span = w.span ∧ (v.passesLeft < w.passesLeft ∨
    (v.passesLeft = w.passesLeft ∧ v.rest.length < w.rest.length)))

theorem nearer_leaveBlock (position : Nat) (i : Instruction) (rest : Program) (o : OpenBlocks) :
    Nearer (leaveBlock position rest o) ⟨position, i :: rest, some o⟩ := by
  obtain ⟨start, body, passes, later⟩ := o
  cases passes <;> cases later <;> simp [leaveBlock, Nearer, span, passesLeft] <;> omega

theorem nearer_enterBlock (position count : Nat) (i : Instruction) (rest : Program)
    (blocks : Option OpenBlocks) :
    Nearer ⟨position + 1, rest, some (enterBlock position rest count blocks)⟩
      ⟨position, i :: rest, blocks⟩ := by
  cases blocks with
  | none => simp [enterBlock, Nearer, span, passesLeft]
  | some o => simp [enterBlock, Nearer, span, passesLeft]; omega

theorem nearer_of_shorter (position position' : Nat) (i : Instruction) (rest after : Program)
    (blocks : Option OpenBlocks) (h : after.length ≤ rest.length) :
    Nearer ⟨position', after, blocks⟩ ⟨position, i :: rest, blocks⟩ := by
  cases blocks <;> simp [Nearer, span, passesLeft] <;> omega

/-- Each step brings the end nearer. -/
theorem nearer_of_step {w v : Walk} {out : Program} (h : w.step = .next v out) : Nearer v w := by
  obtain ⟨position, rest, blocks⟩ := w
  cases rest with
  | nil => cases blocks <;> cases h
  | cons i rest =>
    simp only [step, stepAt] at h
    split at h
    · split at h
      · cases h
      · next hs =>
        cases h
        exact nearer_of_shorter _ _ _ _ _ _ (Nat.le_of_lt (skipBlock?_length hs))
    · cases h
      exact nearer_enterBlock _ _ _ _ _
    · split at h
      · cases h
      · cases h
        exact nearer_leaveBlock _ _ _ _
    · cases h
      exact nearer_of_shorter _ _ _ _ _ _ (Nat.le_refl _)

theorem Nearer.lex {v w : Walk} (h : Nearer v w) :
    Prod.Lex (· < ·) (Prod.Lex (· < ·) (· < ·))
      (v.span, v.passesLeft, v.rest.length) (w.span, w.passesLeft, w.rest.length) := by
  rcases h with h | ⟨h₁, h | ⟨h₂, h₃⟩⟩
  · exact .left _ _ h
  · rw [h₁]
    exact .right _ (.left _ _ h)
  · rw [h₁, h₂]
    exact .right _ (.right _ h₃)

/-- What the walk puts out from a point on, behind the instructions in `out`, newest first. -/
def run (w : Walk) (out : Program) : Except LocatedFault Program :=
  match _h : w.step with
  | .finished => .ok out.reverse
  | .failed e => .error e
  | .next v more => run v (more ++ out)
termination_by (w.span, w.passesLeft, w.rest.length)
decreasing_by exact (nearer_of_step _h).lex

end Walk

/-- The program with its blocks unrolled, or the place where the blocks do not match. -/
def expand (p : Program) : Except LocatedFault Program :=
  (Walk.start p).run []

end Program

end Wireform
