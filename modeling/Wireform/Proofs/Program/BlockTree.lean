import Wireform.Proofs.Program.Forward

/-!
Programs whose blocks match, as trees.

A block tree is a row of items, each a content instruction or a block with a count and a body that
is a block tree again. Its flat form is a balanced program, and every balanced program is the flat
form of a tree. Unrolling treats the outermost blocks alone as loops: the counts of the blocks
inside them are ignored, and if one that runs at least twice has a block inside that is not passed
over, then some block is still open at the end.

* `BlockTree.forward_flatten_inside`: behind an open block a tree puts out its live content once and
  leaves the open blocks as they were.
* `forward_flatten_of_repeatable`, `forward_flatten_of_not_repeatable`: what a tree comes to at the
  top level.
-/

namespace Wireform

namespace Program

/-- A row of content instructions and blocks. Starts and ends of blocks keep their source lines. -/
inductive BlockTree where
  /-- The end of the row. -/
  | nil
  /-- A content instruction and what follows it. -/
  | content (i : Instruction) (isContent : i.command.isContent = true) (rest : BlockTree)
  /-- A block with its count and its body, and what follows it. -/
  | block (count : Nat) (startLine endLine : Option Int) (body rest : BlockTree)

namespace BlockTree

/-- The program that a tree stands for. -/
def flatten : BlockTree → Program
  | nil => []
  | content i _ rest => i :: rest.flatten
  | block count startLine endLine body rest =>
    ⟨.repeat count, startLine⟩ :: (body.flatten ++ ⟨.close, endLine⟩ :: rest.flatten)

/-- The content in order, each instruction once: blocks with count zero are left out and other
counts are ignored. -/
def live : BlockTree → Program
  | nil => []
  | content i _ rest => i :: rest.live
  | block count _ _ body rest => (if count = 0 then [] else body.live) ++ rest.live

/-- Is there a block with a count other than zero that lies in no block with count zero? If so, the
row itself has one, since what such a block lies in is one too. -/
def hasLiveBlock : BlockTree → Bool
  | nil => false
  | content _ _ rest => rest.hasLiveBlock
  | block count _ _ _ rest => count != 0 || rest.hasLiveBlock

/-- Has no outermost block that is run at least twice a live block inside it? -/
def repeatable : BlockTree → Bool
  | nil => true
  | content _ _ rest => rest.repeatable
  | block count _ _ body rest => !(2 ≤ count && body.hasLiveBlock) && rest.repeatable

/-- The content of the outermost items in order, that of a block as often as its count says. -/
def unrolled : BlockTree → Program
  | nil => []
  | content i _ rest => i :: rest.unrolled
  | block count _ _ body rest => (List.replicate count body.live).flatten ++ rest.unrolled

/-! ## Trees and balanced programs -/

theorem closes_flatten_append (t : BlockTree) (depth : Nat) (p : Program) :
    Closes depth (t.flatten ++ p) ↔ Closes depth p := by
  induction t generalizing depth p with
  | nil => rfl
  | content i hi rest ih =>
      rw [flatten, List.cons_append, closes_cons_content hi]
      exact ih depth p
  | block count startLine endLine body rest ihBody ihRest =>
      rw [flatten, List.cons_append, closes_cons_start rfl, List.append_assoc, ihBody,
        List.cons_append, closes_cons_end rfl]
      simp [ihRest]

/-- The flat form of a tree is balanced. -/
theorem balanced_flatten (t : BlockTree) : Balanced t.flatten := by
  have closes := (t.closes_flatten_append 0 []).2 (closes_nil.2 rfl)
  rwa [List.append_nil] at closes

/-- A balanced program is the flat form of a tree. -/
theorem exists_flatten_eq {p : Program} (balanced : Balanced p) :
    ∃ t : BlockTree, t.flatten = p := by
  induction size : p.length using Nat.strong_induction_on generalizing p with
  | _ size ih =>
      subst size
      cases p with
      | nil => exact ⟨nil, rfl⟩
      | cons i p =>
          obtain ⟨command, line⟩ := i
          rcases Command.start_or_end_or_content command with ⟨count, rfl⟩ | rfl | hi
          · -- The body and what follows the block are shorter, and each is balanced.
            obtain ⟨body, ⟨_, endLine⟩, rest, rfl, rfl, hbody, hrest⟩ :=
              Closes.split 0 0 ((closes_cons_start rfl).1 balanced)
            have size : (body ++ ⟨.close, endLine⟩ :: rest).length =
                body.length + (rest.length + 1) := List.length_append
            obtain ⟨tree, rfl⟩ := ih body.length (by rw [List.length_cons, size]; omega) hbody rfl
            obtain ⟨behind, rfl⟩ := ih rest.length (by rw [List.length_cons, size]; omega) hrest rfl
            exact ⟨block count line endLine tree behind, rfl⟩
          · obtain ⟨d, impossible, -⟩ := (closes_cons_end rfl).1 balanced
            cases impossible
          · obtain ⟨behind, rfl⟩ :=
              ih p.length (Nat.lt_succ_self _) ((closes_cons_content hi).1 balanced) rfl
            exact ⟨content ⟨command, line⟩ hi behind, rfl⟩

theorem forward_block_zero (body : BlockTree) (startLine endLine : Option Int) (stack : List Nat)
    (position : Nat) (p : Program) :
    forward stack position (⟨.repeat 0, startLine⟩ :: (body.flatten ++ ⟨.close, endLine⟩ :: p)) =
      forward stack (position + (body.flatten.length + 2)) p :=
  forward_skipped rfl body.balanced_flatten rfl

theorem bodyPass_block_zero (body : BlockTree) (startLine endLine : Option Int)
    (newest position : Nat) (p : Program) :
    bodyPass newest position (⟨.repeat 0, startLine⟩ :: (body.flatten ++ ⟨.close, endLine⟩ :: p)) =
      bodyPass newest (position + (body.flatten.length + 2)) p :=
  bodyPass_skipped rfl body.balanced_flatten rfl

/-! ## A tree behind open blocks -/

/-- Behind an open block that has no pass left, a tree puts out its live content once and leaves the
open blocks as they were. -/
theorem forward_flatten_inside (t : BlockTree) {stack : List Nat} (inside : stack ≠ [])
    (position : Nat) (p : Program) :
    forward stack position (t.flatten ++ p) =
      emitting t.live (forward stack (position + t.flatten.length) p) := by
  induction t generalizing stack position p with
  | nil => simp [flatten, live]
  | content i hi rest ih =>
      rw [flatten, List.cons_append, forward_content hi, ih inside]
      simp [live, Nat.add_assoc, Nat.add_comm 1]
  | block count startLine endLine body rest ihBody ihRest =>
      have size : (block count startLine endLine body rest).flatten.length =
          body.flatten.length + 2 + rest.flatten.length := by
        simp only [flatten, List.length_cons, List.length_append]
        omega
      rw [size, flatten, List.cons_append, List.append_assoc, List.cons_append]
      cases count with
      | zero =>
          rw [forward_block_zero, ihRest inside]
          simp [live, Nat.add_assoc]
      | succ k =>
          rw [forward_push rfl inside, ihBody (List.cons_ne_nil _ _), forward_close_cons rfl,
            ihRest inside, emitting_emitting, live, if_neg (Nat.succ_ne_zero k)]
          congr 2
          omega

/-- With blocks open in front of it, a tree at the end of a program leaves one of them open. -/
theorem forward_flatten_dangling (t : BlockTree) {stack : List Nat} (inside : stack ≠ [])
    (position : Nat) :
    ∃ start : Nat, forward stack position t.flatten = .error ⟨start, .unmatchedRepeat⟩ := by
  obtain ⟨newest, older, rfl⟩ := List.exists_cons_of_ne_nil inside
  refine ⟨newest, ?_⟩
  rw [← List.append_nil t.flatten, t.forward_flatten_inside inside, forward]
  rfl

/-! ## A pass over a tree that is followed by another -/

/-- With no live block in its body, a block has its own end reached first: the pass puts out the
live content and opens nothing. -/
theorem bodyPass_flatten_of_quiet (t : BlockTree) (quiet : t.hasLiveBlock = false)
    (endLine : Option Int) (newest position : Nat) (p : Program) :
    bodyPass newest position (t.flatten ++ ⟨.close, endLine⟩ :: p) = .ok ⟨t.live, []⟩ := by
  induction t generalizing position with
  | nil => exact bodyPass_close rfl
  | content i hi rest ih =>
      rw [flatten, List.cons_append, bodyPass_content hi, ih quiet]
      rfl
  | block count startLine line body rest ihBody ihRest =>
      simp only [hasLiveBlock, Bool.or_eq_false_iff, bne_eq_false_iff_eq] at quiet
      obtain ⟨rfl, quiet⟩ := quiet
      rw [flatten, List.cons_append, List.append_assoc, List.cons_append, bodyPass_block_zero,
        ihRest quiet]
      rfl

/-- With a live block in it, a tree has an end that the pass reaches, and a block is left open. -/
theorem bodyPass_flatten_of_live (t : BlockTree) (h : t.hasLiveBlock = true)
    (newest position : Nat) (p : Program) :
    ∃ s, bodyPass newest position (t.flatten ++ p) = .ok s ∧ s.opened ≠ [] := by
  induction t generalizing newest position p with
  | nil => cases h
  | content i hi rest ih =>
      obtain ⟨s, pass, opened⟩ := ih h newest (position + 1) p
      refine ⟨s.emit i, ?_, opened⟩
      rw [flatten, List.cons_append, bodyPass_content hi, pass]
      rfl
  | block count startLine endLine body rest ihBody ihRest =>
      rw [flatten, List.cons_append, List.append_assoc, List.cons_append]
      cases count with
      | zero =>
          rw [bodyPass_block_zero]
          exact ihRest (by simpa [hasLiveBlock] using h) _ _ _
      | succ k =>
          rw [bodyPass_repeat_succ rfl]
          obtain ⟨s, pass⟩ : ∃ s, bodyPass position (position + 1)
              (body.flatten ++ ⟨.close, endLine⟩ :: (rest.flatten ++ p)) = .ok s := by
            cases quiet : body.hasLiveBlock with
            | false =>
                exact ⟨_, bodyPass_flatten_of_quiet body quiet endLine position _ _⟩
            | true =>
                obtain ⟨s, pass, -⟩ := ihBody quiet position (position + 1)
                  (⟨.close, endLine⟩ :: (rest.flatten ++ p))
                exact ⟨s, pass⟩
          rw [pass]
          exact ⟨s.open position, rfl, List.cons_ne_nil _ _⟩

/-! ## A tree at the top level -/

section Block

variable (body : BlockTree) (startLine endLine : Option Int) (position : Nat) (p : Program)

/-- An outermost block puts out its live content as often as its count says and is closed then,
unless it runs at least twice with a live block inside. -/
theorem forward_block_of_repeatable {count : Nat} (h : 2 ≤ count → body.hasLiveBlock = false) :
    forward [] position
        (⟨.repeat count, startLine⟩ :: (body.flatten ++ ⟨.close, endLine⟩ :: p)) =
      emitting (List.replicate count body.live).flatten
        (forward [] (position + (body.flatten.length + 2)) p) := by
  -- The last pass is the same whatever the count: behind it the one open block is closed.
  have last : forward [position] (position + 1) (body.flatten ++ ⟨.close, endLine⟩ :: p) =
      emitting body.live (forward [] (position + (body.flatten.length + 2)) p) := by
    rw [body.forward_flatten_inside (List.cons_ne_nil _ _), forward_close_cons rfl]
    congr 2
    omega
  match count with
  | 0 => simp [forward_block_zero]
  | 1 => simp [forward_open_once, last]
  | k + 2 =>
      rw [forward_open rfl, bodyPass_flatten_of_quiet body (h (Nat.le_add_left 2 k)), Except.bind]
      simp [last, List.replicate_succ' (n := k + 1)]

/-- An outermost block that runs at least twice with a live block inside leaves a block open. -/
theorem forward_block_of_live {k : Nat} (h : body.hasLiveBlock = true) :
    ∃ out stack, stack ≠ [] ∧
      forward [] position
          (⟨.repeat (k + 2), startLine⟩ :: (body.flatten ++ ⟨.close, endLine⟩ :: p)) =
        emitting out (forward stack (position + (body.flatten.length + 2)) p) := by
  obtain ⟨s, pass, opened⟩ := body.bodyPass_flatten_of_live h position (position + 1)
    (⟨.close, endLine⟩ :: p)
  rw [forward_open rfl, pass, Except.bind]
  -- What the earlier passes opened lies above the outermost block, so one end is not enough.
  generalize hstack : (position :: (List.replicate (k + 1) s.opened).flatten).reverse = stack
  have deep : 2 ≤ stack.length := by
    have := List.length_pos_of_ne_nil opened
    rw [← hstack, List.length_reverse, List.length_cons, List.replicate_succ, List.flatten_cons,
      List.length_append]
    omega
  obtain ⟨newest, older, rfl⟩ :=
    List.exists_cons_of_length_pos (Nat.lt_of_lt_of_le Nat.two_pos deep)
  refine ⟨(List.replicate (k + 1) s.output).flatten ++ body.live, older, ?_, ?_⟩
  · exact List.ne_nil_of_length_pos (Nat.le_of_succ_le_succ deep)
  · rw [body.forward_flatten_inside (List.cons_ne_nil _ _), forward_close_cons rfl,
      emitting_emitting]
    congr 2
    omega

end Block

theorem forward_flatten_of_repeatable (t : BlockTree) (h : t.repeatable = true) (position : Nat) :
    forward [] position t.flatten = .ok t.unrolled := by
  induction t generalizing position with
  | nil => simp [flatten, unrolled, forward]
  | content i hi rest ih =>
      rw [flatten, forward_content hi, ih h]
      rfl
  | block count startLine endLine body rest ihBody ihRest =>
      simp only [repeatable, Bool.and_eq_true, Bool.not_eq_true', Bool.and_eq_false_iff,
        decide_eq_false_iff_not] at h
      obtain ⟨outer, behind⟩ := h
      have quiet : 2 ≤ count → body.hasLiveBlock = false := fun twice =>
        outer.resolve_left (not_not_intro twice)
      rw [flatten, forward_block_of_repeatable _ _ _ _ _ quiet, ihRest behind]
      rfl

theorem forward_flatten_of_not_repeatable (t : BlockTree) (h : t.repeatable = false)
    (position : Nat) :
    ∃ start : Nat, forward [] position t.flatten = .error ⟨start, .unmatchedRepeat⟩ := by
  induction t generalizing position with
  | nil => cases h
  | content i hi rest ih =>
      obtain ⟨start, failed⟩ := ih h (position + 1)
      exact ⟨start, by rw [flatten, forward_content hi, failed, emitting_error]⟩
  | block count startLine endLine body rest ihBody ihRest =>
      rw [flatten]
      by_cases outer : 2 ≤ count ∧ body.hasLiveBlock = true
      · obtain ⟨twice, nested⟩ := outer
        obtain ⟨k, rfl⟩ := Nat.exists_eq_add_of_le' twice
        obtain ⟨out, stack, inside, read⟩ :=
          forward_block_of_live body startLine endLine position rest.flatten (k := k) nested
        obtain ⟨start, failed⟩ := rest.forward_flatten_dangling inside
          (position + (body.flatten.length + 2))
        exact ⟨start, by rw [read, failed, emitting_error]⟩
      · have quiet : 2 ≤ count → body.hasLiveBlock = false := fun twice =>
          Bool.eq_false_iff.2 fun nested => outer ⟨twice, nested⟩
        have behind : rest.repeatable = false := by
          simp only [repeatable, Bool.and_eq_false_iff, Bool.not_eq_false', Bool.and_eq_true,
            decide_eq_true_eq] at h
          exact h.resolve_left outer
        obtain ⟨start, failed⟩ := ihRest behind (position + (body.flatten.length + 2))
        refine ⟨start, ?_⟩
        rw [forward_block_of_repeatable _ _ _ _ _ quiet, failed, emitting_error]

end BlockTree

/-- A block tree is unrolled if and only if no outermost block that runs at least twice has a live
block inside: the outermost blocks then run as often as they say and all others once. If one has,
some block is found open at the end. Each balanced program is a block tree. -/
theorem expand_flatten :
    (∀ t : BlockTree,
      (t.repeatable = true → t.flatten.expand = .ok t.unrolled) ∧
      (t.repeatable = false →
        ∃ start : Nat, t.flatten.expand = .error ⟨start, .unmatchedRepeat⟩)) ∧
    ∀ p : Program, Balanced p →
      ∃ t : BlockTree, t.flatten = p ∧ ((∃ out, p.expand = .ok out) ↔ t.repeatable = true) := by
  have unrolls (t : BlockTree) (h : t.repeatable = true) : t.flatten.expand = .ok t.unrolled :=
    (Walk.run_eq_forward (.start t.flatten) rfl).trans (t.forward_flatten_of_repeatable h 0)
  have fails (t : BlockTree) (h : t.repeatable = false) :
      ∃ start : Nat, t.flatten.expand = .error ⟨start, .unmatchedRepeat⟩ := by
    obtain ⟨start, failed⟩ := t.forward_flatten_of_not_repeatable h 0
    exact ⟨start, (Walk.run_eq_forward (.start t.flatten) rfl).trans failed⟩
  refine ⟨fun t => ⟨unrolls t, fails t⟩, fun p balanced => ?_⟩
  obtain ⟨t, rfl⟩ := BlockTree.exists_flatten_eq balanced
  refine ⟨t, rfl, ?_, fun h => ⟨_, unrolls t h⟩⟩
  rintro ⟨out, unrolled⟩
  rw [← Bool.not_eq_false]
  intro h
  obtain ⟨start, failed⟩ := fails t h
  rw [failed] at unrolled
  cases unrolled

end Program

end Wireform
