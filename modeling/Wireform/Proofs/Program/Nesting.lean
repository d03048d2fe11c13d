import Mathlib.Data.List.Infix
import Wireform.Program.Expansion

/-!
Starts and ends of blocks as brackets.

`Closes depth p` says that `p`, read behind `depth` open blocks, closes all of them and never one
more on the way; with no block open this is `Balanced`. `matchingEnd?` looks for the end of a block
by that property alone, and `skipBlock?_zero` says that the counting search finds the same place.
-/

namespace Wireform

/-- Does the command start a block? -/
def Command.startsBlock : Command → Bool
  | .repeat _ => true
  | _ => false

/-- Does the command end a block? -/
def Command.endsBlock : Command → Bool
  | .close => true
  | _ => false

/-- Is the command neither the start nor the end of a block? -/
def Command.isContent : Command → Bool
  | .repeat _ | .close => false
  | _ => true

theorem Command.endsBlock_iff {command : Command} :
    command.endsBlock = true ↔ command = .close := by
  cases command <;> simp [endsBlock]

theorem Command.isContent_iff {command : Command} :
    command.isContent = true ↔ command.startsBlock = false ∧ command.endsBlock = false := by
  cases command <;> simp [isContent, startsBlock, endsBlock]

/-- A command starts a block, ends one, or is content. -/
theorem Command.start_or_end_or_content (command : Command) :
    (∃ count, command = .repeat count) ∨ command = .close ∨ command.isContent = true := by
  cases command <;> simp [isContent]

namespace Program

/-- How many blocks are started. -/
def starts (p : Program) : Nat :=
  p.countP fun i => i.command.startsBlock

/-- How many blocks are ended. -/
def ends (p : Program) : Nat :=
  p.countP fun i => i.command.endsBlock

/-- Behind `depth` open blocks, the program ends as many blocks as there are then, and no part of it
from the front ends more than there are. -/
def Closes (depth : Nat) (p : Program) : Prop :=
  p.ends = p.starts + depth ∧ ∀ q ∈ p.inits, ends q ≤ starts q + depth

/-- As many starts as ends, and nowhere more ends than starts so far. -/
def Balanced (p : Program) : Prop :=
  Closes 0 p

instance (depth : Nat) (p : Program) : Decidable (Closes depth p) :=
  inferInstanceAs (Decidable (_ ∧ _))

instance (p : Program) : Decidable (Balanced p) :=
  inferInstanceAs (Decidable (Closes 0 p))

/-- Where the end of a block stands whose body the program starts with: the first end with a
balanced program in front of it. -/
def matchingEnd? (p : Program) : Option Nat :=
  (List.range p.length).find? fun n =>
    p[n]?.any (fun i => i.command.endsBlock) && decide (Balanced (p.take n))

/-! ## One instruction in front -/

section Cons

variable {i : Instruction} {p : Program} {depth : Nat}

theorem closes_nil : Closes depth [] ↔ depth = 0 := by
  simp only [Closes, starts, ends, List.countP_nil, List.inits, List.mem_singleton]
  constructor
  · rintro ⟨h, -⟩
    omega
  · rintro rfl
    exact ⟨rfl, by simp⟩

/-- What closing asks of a program with an instruction in front, said of the program behind it. -/
theorem closes_cons :
    Closes depth (i :: p) ↔
      p.ends + i.command.endsBlock.toNat = p.starts + i.command.startsBlock.toNat + depth ∧
      ∀ q ∈ p.inits,
        ends q + i.command.endsBlock.toNat ≤ starts q + i.command.startsBlock.toNat + depth := by
  have count (b : Bool) : (if b = true then 1 else 0) = b.toNat := by cases b <;> rfl
  simp only [Closes, starts, ends, List.countP_cons, List.inits_cons, List.mem_cons,
    List.mem_map, forall_eq_or_imp, forall_exists_index, and_imp, forall_apply_eq_imp_iff₂, count]
  simp

/-- A start in front is one more block to close. -/
theorem closes_cons_start {count : Nat} (h : i.command = .repeat count) :
    Closes depth (i :: p) ↔ Closes (depth + 1) p := by
  rw [closes_cons, h]
  simp [Closes, Command.startsBlock, Command.endsBlock, Nat.add_assoc, Nat.add_comm 1]

/-- An end in front closes one of the blocks, so there has to be one. -/
theorem closes_cons_end (h : i.command = .close) :
    Closes depth (i :: p) ↔ ∃ d, depth = d + 1 ∧ Closes d p := by
  rw [closes_cons, h]
  simp only [Closes, Command.startsBlock, Command.endsBlock, Bool.toNat_true, Bool.toNat_false,
    Nat.add_zero]
  constructor
  · rintro ⟨total, before⟩
    have first : 1 ≤ depth := by simpa [starts, ends] using before [] (by simp)
    refine ⟨depth - 1, by omega, by omega, fun q hq => ?_⟩
    have := before q hq
    omega
  · rintro ⟨d, rfl, total, before⟩
    refine ⟨by omega, fun q hq => ?_⟩
    have := before q hq
    omega

/-- Any other instruction in front makes no difference. -/
theorem closes_cons_content (h : i.command.isContent = true) :
    Closes depth (i :: p) ↔ Closes depth p := by
  obtain ⟨hs, he⟩ := Command.isContent_iff.1 h
  rw [closes_cons, hs, he]
  simp [Closes]

theorem skipBlock?_cons_content (h : i.command.isContent = true) :
    skipBlock? (i :: p) depth = (skipBlock? p depth).map fun r => (r.1 + 1, r.2) := by
  cases command : i.command <;> simp_all [Command.isContent, skipBlock?]

/-- A walk puts out the content that it comes to. -/
theorem Walk.step_content (h : i.command.isContent = true) (position : Nat)
    (blocks : Option OpenBlocks) :
    Walk.step ⟨position, i :: p, blocks⟩ = .next ⟨position + 1, p, blocks⟩ [i] := by
  cases command : i.command <;> simp_all [Walk.step, Walk.stepAt, Command.isContent]

end Cons

/-! ## The search for the end of a block -/

/-- The counting search stops right behind the end of the outermost of the `depth + 1` blocks that
are open. -/
theorem skipBlock?_eq_some_iff {p rest : Program} {depth n : Nat} :
    skipBlock? p depth = some (n, rest) ↔
      ∃ body close, p = body ++ close :: rest ∧ close.command = .close ∧
        n = body.length + 1 ∧ Closes depth body := by
  induction p generalizing depth n with
  | nil => simp [skipBlock?]
  | cons i p ih =>
      -- The search goes on behind `i` at another depth, and so does a body that starts with `i`.
      have further {d : Nat} (hi : i.command ≠ .close ∨ depth ≠ 0)
          (body : ∀ q, Closes depth (i :: q) ↔ Closes d q) :
          (skipBlock? p d).map (fun r => (r.1 + 1, r.2)) = some (n, rest) ↔
            ∃ body close, i :: p = body ++ close :: rest ∧ close.command = .close ∧
              n = body.length + 1 ∧ Closes depth body := by
        rw [Option.map_eq_some_iff]
        constructor
        · rintro ⟨⟨m, tail⟩, found, same⟩
          obtain ⟨rfl, rfl⟩ := Prod.mk.inj same
          obtain ⟨q, close, rfl, hclose, rfl, closes⟩ := ih.1 found
          exact ⟨i :: q, close, rfl, hclose, rfl, (body q).2 closes⟩
        · rintro ⟨q, close, split, hclose, rfl, closes⟩
          cases q with
          | nil =>
              obtain ⟨rfl, rfl⟩ := List.cons.inj split
              rw [closes_nil] at closes
              exact absurd closes (hi.resolve_left (not_not_intro hclose))
          | cons j q =>
              obtain ⟨rfl, rfl⟩ := List.cons.inj split
              have found := ih.2 ⟨q, close, rfl, hclose, rfl, (body q).1 closes⟩
              exact ⟨(q.length + 1, rest), found, rfl⟩
      rcases Command.start_or_end_or_content i.command with ⟨count, hi⟩ | hi | hi
      · simp only [skipBlock?, hi]
        exact further (.inl (by simp [hi])) fun q => closes_cons_start hi
      · cases depth with
        | zero =>
            simp only [skipBlock?, hi]
            constructor
            · intro same
              obtain ⟨rfl, rfl⟩ := Prod.mk.inj (Option.some.inj same)
              exact ⟨[], i, rfl, hi, rfl, closes_nil.2 rfl⟩
            · rintro ⟨q, close, split, hclose, rfl, closes⟩
              cases q with
              | nil =>
                  obtain ⟨rfl, rfl⟩ := List.cons.inj split
                  rfl
              | cons j q =>
                  obtain ⟨rfl, rfl⟩ := List.cons.inj split
                  obtain ⟨d, impossible, -⟩ := (closes_cons_end hi).1 closes
                  cases impossible
        | succ d =>
            simp only [skipBlock?, hi]
            exact further (.inr (Nat.succ_ne_zero d)) fun q => by simp [closes_cons_end hi]
      · rw [skipBlock?_cons_content hi]
        have open_or : i.command ≠ .close := by
          intro hc
          simp [hc, Command.isContent] at hi
        exact further (.inl open_or) fun q => closes_cons_content hi

/-- The counting search finds the first end that has a balanced program in front of it. -/
theorem skipBlock?_zero (p : Program) :
    skipBlock? p 0 = (matchingEnd? p).map fun n => (n + 1, p.drop (n + 1)) := by
  cases found : matchingEnd? p with
  | some n =>
      have atEnd := List.find?_some found
      rw [Bool.and_eq_true, decide_eq_true_eq, Option.any_eq_true] at atEnd
      obtain ⟨⟨close, hget, hclose⟩, balanced⟩ := atEnd
      obtain ⟨hn, rfl⟩ := List.getElem?_eq_some_iff.1 hget
      refine skipBlock?_eq_some_iff.2
        ⟨p.take n, p[n], ?_, Command.endsBlock_iff.1 hclose, ?_, balanced⟩
      · rw [List.cons_getElem_drop_succ, List.take_append_drop]
      · rw [List.length_take_of_le (Nat.le_of_lt hn)]
  | none =>
      rw [matchingEnd?, List.find?_eq_none] at found
      rw [Option.map_none, Option.eq_none_iff_forall_ne_some]
      rintro ⟨n, rest⟩ skipped
      obtain ⟨body, close, rfl, hclose, rfl, balanced⟩ := skipBlock?_eq_some_iff.1 skipped
      refine found body.length (by simp) ?_
      rw [Bool.and_eq_true, decide_eq_true_eq]
      refine ⟨?_, ?_⟩
      · simp [hclose, Command.endsBlock]
      · rw [List.take_left]
        exact balanced

/-- In front of the end that is found stands a balanced body. -/
theorem split_of_matchingEnd? {p : Program} {n : Nat} (h : matchingEnd? p = some n) :
    ∃ body close rest, p = body ++ close :: rest ∧ close.command = .close ∧
      n = body.length ∧ Balanced body := by
  have skipped := skipBlock?_zero p
  rw [h, Option.map_some] at skipped
  obtain ⟨body, close, split, hclose, same, balanced⟩ := skipBlock?_eq_some_iff.1 skipped
  exact ⟨body, close, _, split, hclose, Nat.succ.inj same, balanced⟩

/-- Behind a balanced body the first end is the matching one. -/
theorem matchingEnd?_append {body rest : Program} {close : Instruction}
    (balanced : Balanced body) (hclose : close.command = .close) :
    matchingEnd? (body ++ close :: rest) = some body.length := by
  have skipped : skipBlock? (body ++ close :: rest) 0 = some (body.length + 1, rest) :=
    skipBlock?_eq_some_iff.2 ⟨body, close, rfl, hclose, rfl, balanced⟩
  rw [skipBlock?_zero, Option.map_eq_some_iff] at skipped
  obtain ⟨n, found, same⟩ := skipped
  rw [found, Nat.succ.inj (Prod.mk.inj same).1]

/-- A program that closes more than `depth` blocks has an end in front of which it has closed just
`depth` of them. -/
theorem Closes.split {p : Program} (depth outer : Nat) (h : Closes (depth + outer + 1) p) :
    ∃ body close rest, p = body ++ close :: rest ∧ close.command = .close ∧
      Closes depth body ∧ Closes outer rest := by
  induction p generalizing depth with
  | nil => exact absurd (closes_nil.1 h) (Nat.succ_ne_zero _)
  | cons i p ih =>
      rcases Command.start_or_end_or_content i.command with ⟨count, hi⟩ | hi | hi
      · rw [closes_cons_start hi] at h
        have deeper : Closes (depth + 1 + outer + 1) p := by rwa [Nat.add_right_comm depth 1]
        obtain ⟨body, close, rest, rfl, hclose, inner, later⟩ := ih (depth + 1) deeper
        exact ⟨i :: body, close, rest, rfl, hclose, (closes_cons_start hi).2 inner, later⟩
      · obtain ⟨d, same, behind⟩ := (closes_cons_end hi).1 h
        cases depth with
        | zero =>
            obtain rfl : d = outer := by omega
            exact ⟨[], i, p, rfl, hi, closes_nil.2 rfl, behind⟩
        | succ depth =>
            obtain rfl : d = depth + outer + 1 := by omega
            obtain ⟨body, close, rest, rfl, hclose, inner, later⟩ := ih depth behind
            exact ⟨i :: body, close, rest, rfl, hclose,
              (closes_cons_end hi).2 ⟨depth, rfl, inner⟩, later⟩
      · rw [closes_cons_content hi] at h
        obtain ⟨body, close, rest, rfl, hclose, inner, later⟩ := ih depth h
        exact ⟨i :: body, close, rest, rfl, hclose, (closes_cons_content hi).2 inner, later⟩

end Program

end Wireform
