import Wireform.Proofs.Program.Displacement
import Wireform.Proofs.Program.SurplusEnd

/-!
Blocks with count zero.

A block with count zero can be put in anywhere, inside other blocks and between starts and ends that
have no partner, and nothing changes but the positions of the instructions behind it. Where the walk
comes to the block, it passes over it. Where the walk passes over a larger block around it, the
search for the end of that one counts the starts and ends inside and comes out at the same depth.

* `skipBlock?_insert`: the search for an end, with a balanced part put in on its way.
* `IsDead.forward_insert`: reading on, with a block of count zero put in.
-/

namespace Wireform

namespace Program

/-! ## The search for an end -/

/-- What a search finds, counted from `n` instructions further ahead. -/
def countedFrom (n : Nat) (r : Option (Nat × Program)) : Option (Nat × Program) :=
  r.map fun found => (found.1 + n, found.2)

theorem countedFrom_countedFrom (m n : Nat) (r : Option (Nat × Program)) :
    countedFrom m (countedFrom n r) = countedFrom (n + m) r := by
  cases r <;> simp [countedFrom, Nat.add_assoc]

section Search

variable {i : Instruction} {m p u v : Program} {depth : Nat}

theorem skipBlock?_cons_start {count : Nat} (h : i.command = .repeat count) :
    skipBlock? (i :: p) depth = countedFrom 1 (skipBlock? p (depth + 1)) := by
  simp only [skipBlock?, h]
  rfl

theorem skipBlock?_cons_end (h : i.command = .close) :
    skipBlock? (i :: p) (depth + 1) = countedFrom 1 (skipBlock? p depth) := by
  simp only [skipBlock?, h]
  rfl

/-- A part that closes `k` of the blocks that the search has counted: it goes on behind the part,
with the others. -/
theorem skipBlock?_append_of_closes {k : Nat} (closes : Closes k m) (depth : Nat) (rest : Program) :
    skipBlock? (m ++ rest) (depth + k) = countedFrom m.length (skipBlock? rest depth) := by
  induction m generalizing k with
  | nil =>
      obtain rfl := closes_nil.1 closes
      simp [countedFrom]
  | cons i m ih =>
      rw [List.length_cons, ← countedFrom_countedFrom, List.cons_append]
      rcases Command.start_or_end_or_content i.command with ⟨count, hi⟩ | hi | hi
      · rw [skipBlock?_cons_start hi, ← ih ((closes_cons_start hi).1 closes), Nat.add_assoc]
      · obtain ⟨d, rfl, behind⟩ := (closes_cons_end hi).1 closes
        rw [← Nat.add_assoc, skipBlock?_cons_end hi, ← ih behind]
      · rw [skipBlock?_cons_content hi, ← ih ((closes_cons_content hi).1 closes)]
        rfl

/-- A search that does not end within a program goes on behind it, at some depth. -/
theorem exists_depth_of_skipBlock?_eq_none (h : skipBlock? u depth = none) :
    ∃ d, ∀ rest, skipBlock? (u ++ rest) depth = countedFrom u.length (skipBlock? rest d) := by
  induction u generalizing depth with
  | nil => exact ⟨depth, fun rest => by simp [countedFrom]⟩
  | cons i u ih =>
      -- The search takes one step, to depth `d`.
      have further (d : Nat)
          (step : ∀ p, skipBlock? (i :: p) depth = countedFrom 1 (skipBlock? p d)) :
          ∃ d, ∀ rest, skipBlock? (i :: u ++ rest) depth =
            countedFrom (i :: u).length (skipBlock? rest d) := by
        rw [step, countedFrom, Option.map_eq_none_iff] at h
        obtain ⟨d', search⟩ := ih h
        refine ⟨d', fun rest => ?_⟩
        rw [List.cons_append, step, search, countedFrom_countedFrom, List.length_cons]
      rcases Command.start_or_end_or_content i.command with ⟨count, hi⟩ | hi | hi
      · exact further (depth + 1) fun p => skipBlock?_cons_start hi
      · cases depth with
        | zero =>
            simp only [skipBlock?, hi] at h
            cases h
        | succ depth => exact further depth fun p => skipBlock?_cons_end hi
      · exact further depth fun p => skipBlock?_cons_content hi

theorem skipBlock?_eq_none_iff : skipBlock? u 0 = none ↔ matchingEnd? u = none := by
  rw [skipBlock?_zero, Option.map_eq_none_iff]

/-- A balanced part put in where the search is still under way makes the way longer. -/
theorem skipBlock?_insert (unclosed : matchingEnd? u = none) (balanced : Balanced m) (v : Program) :
    skipBlock? (u ++ (m ++ v)) 0 = countedFrom m.length (skipBlock? (u ++ v) 0) := by
  obtain ⟨d, search⟩ := exists_depth_of_skipBlock?_eq_none (skipBlock?_eq_none_iff.2 unclosed)
  have past : skipBlock? (m ++ v) d = countedFrom m.length (skipBlock? v d) :=
    skipBlock?_append_of_closes balanced d v
  rw [search, search, past, countedFrom_countedFrom, countedFrom_countedFrom, Nat.add_comm]

/-- An end that is not found in a program is found behind it. -/
theorem length_le_of_skipBlock? (unclosed : matchingEnd? u = none) {n : Nat} {after : Program}
    (h : skipBlock? (u ++ v) 0 = some (n, after)) : u.length ≤ n := by
  obtain ⟨d, search⟩ := exists_depth_of_skipBlock?_eq_none (skipBlock?_eq_none_iff.2 unclosed)
  rw [search, countedFrom, Option.map_eq_some_iff] at h
  obtain ⟨found, -, same⟩ := h
  rw [← (Prod.mk.inj same).1]
  exact Nat.le_add_left _ _

end Search

section Skip

variable {i : Instruction} {position : Nat} {rest : Program}

theorem bodyPass_skip {newest : Nat} (starts : i.command = .repeat 0) :
    bodyPass newest position (i :: rest) =
      match skipBlock? rest 0 with
      | none => .error ⟨position, .unmatchedRepeat⟩
      | some (n, after) => bodyPass newest (position + 1 + n) after := by
  rw [bodyPass_repeat_zero starts, skipBlock?_zero]
  cases matchingEnd? rest <;> rfl

theorem forward_skip {stack : List Nat} (starts : i.command = .repeat 0) :
    forward stack position (i :: rest) =
      match skipBlock? rest 0 with
      | none => .error ⟨position, .unmatchedRepeat⟩
      | some (n, after) => forward stack (position + 1 + n) after := by
  rw [forward_repeat_zero starts, skipBlock?_zero]
  cases matchingEnd? rest <;> rfl

end Skip

/-! ## Putting a block in -/

/-- A block with count zero, from its start to its end. -/
def IsDead (block : Program) : Prop :=
  ∃ start body close, block = start :: (body ++ [close]) ∧ start.command = .repeat 0 ∧
    Balanced body ∧ close.command = .close

namespace IsDead

variable {block : Program}

theorem balanced (dead : IsDead block) : Balanced block := by
  obtain ⟨start, body, close, rfl, starts, inner, ends⟩ := dead
  exact (closes_cons_block starts inner ends).2 (closes_nil.2 rfl)

theorem bodyPass_append (dead : IsDead block) (newest position : Nat) (v : Program) :
    bodyPass newest position (block ++ v) = bodyPass newest (position + block.length) v := by
  obtain ⟨start, body, close, rfl, starts, inner, ends⟩ := dead
  rw [block_append, List.nil_append, bodyPass_skipped starts inner ends, add_length_block]
  rfl

theorem forward_append (dead : IsDead block) (stack : List Nat) (position : Nat) (v : Program) :
    forward stack position (block ++ v) = forward stack (position + block.length) v := by
  obtain ⟨start, body, close, rfl, starts, inner, ends⟩ := dead
  rw [block_append, List.nil_append, forward_skipped starts inner ends, add_length_block]
  rfl

variable {cut : Nat}

/-- A pass with a block of count zero put in at `cut`. -/
theorem bodyPass_insert (dead : IsDead block) (u v : Program) (newest position : Nat)
    (place : cut = position + u.length) :
    bodyPass (displace cut block.length newest) position (u ++ (block ++ v)) =
      Pass.displaced cut block.length (bodyPass newest position (u ++ v)) := by
  induction u using kind_induction generalizing newest position with
  | nil =>
      rw [List.nil_append, List.nil_append, dead.bodyPass_append]
      exact bodyPass_displaced block.length newest (Nat.le_of_eq place) v
  | skipped i body close rest starts balanced ends ih =>
      rw [add_length_block] at place
      rw [block_append, block_append, bodyPass_skipped starts balanced ends,
        bodyPass_skipped starts balanced ends]
      exact ih _ _ place
  | unskippable i rest starts unclosed =>
      rw [List.length_cons] at place
      rw [List.cons_append, List.cons_append, bodyPass_skip starts, bodyPass_skip starts,
        skipBlock?_insert unclosed dead.balanced]
      cases found : skipBlock? (rest ++ v) 0 with
      | none =>
          have before : position < cut := by omega
          simp [countedFrom, displace_of_lt block.length before]
      | some r =>
          obtain ⟨n, after⟩ := r
          have far : cut ≤ position + 1 + n := by
            have := length_le_of_skipBlock? unclosed found
            omega
          have further := bodyPass_displaced block.length newest far after
          rw [Nat.add_assoc] at further
          exact further
  | start i k rest starts ih =>
      rw [List.length_cons] at place
      have before : position < cut := by omega
      have next := ih position (position + 1) (by omega)
      rw [displace_of_lt block.length before] at next
      rw [List.cons_append, List.cons_append, bodyPass_repeat_succ starts,
        bodyPass_repeat_succ starts, Pass.displaced_open, displace_of_lt block.length before, next]
  | close i rest ends _ =>
      rw [List.cons_append, List.cons_append, bodyPass_close ends, bodyPass_close ends]
      rfl
  | content i rest isContent ih =>
      rw [List.length_cons] at place
      rw [List.cons_append, List.cons_append, bodyPass_content isContent,
        bodyPass_content isContent, Pass.displaced_emit, ih newest (position + 1) (by omega)]

/-- Reading on with a block of count zero put in at `cut`. -/
theorem forward_insert (dead : IsDead block) (u v : Program) (stack : List Nat) (position : Nat)
    (place : cut = position + u.length) :
    forward (stack.map (displace cut block.length)) position (u ++ (block ++ v)) =
      displaced cut block.length (forward stack position (u ++ v)) := by
  induction u using kind_induction generalizing stack position with
  | nil =>
      rw [List.nil_append, List.nil_append, dead.forward_append]
      exact forward_displaced block.length stack (Nat.le_of_eq place) v
  | skipped i body close rest starts balanced ends ih =>
      rw [add_length_block] at place
      rw [block_append, block_append, forward_skipped starts balanced ends,
        forward_skipped starts balanced ends]
      exact ih _ _ place
  | unskippable i rest starts unclosed =>
      -- The search for the end of this block leaves `u` and passes through the one that is put in.
      rw [List.length_cons] at place
      rw [List.cons_append, List.cons_append, forward_skip starts, forward_skip starts,
        skipBlock?_insert unclosed dead.balanced]
      cases found : skipBlock? (rest ++ v) 0 with
      | none =>
          have before : position < cut := by omega
          simp [countedFrom, displace_of_lt block.length before]
      | some r =>
          obtain ⟨n, after⟩ := r
          have far : cut ≤ position + 1 + n := by
            have := length_le_of_skipBlock? unclosed found
            omega
          have further := forward_displaced block.length stack far after
          rw [Nat.add_assoc] at further
          exact further
  | start i k rest starts ih =>
      rw [List.length_cons] at place
      have here : displace cut block.length position = position :=
        displace_of_lt block.length (by omega)
      have place' : cut = position + 1 + rest.length := by omega
      rw [List.cons_append, List.cons_append]
      cases stack with
      | cons newest older =>
          rw [List.map_cons, forward_push starts (List.cons_ne_nil _ _),
            forward_push starts (List.cons_ne_nil _ _), ← ih _ _ place', List.map_cons,
            List.map_cons, here]
      | nil =>
          cases k with
          | zero =>
              rw [List.map_nil, forward_open_once starts, forward_open_once starts,
                ← ih _ _ place', List.map_singleton, here]
          | succ k =>
              have pass := dead.bodyPass_insert rest v position (position + 1) place'
              rw [here] at pass
              rw [List.map_nil, forward_open starts, forward_open starts, pass]
              cases bodyPass position (position + 1) (rest ++ v) with
              | error e => rfl
              | ok s =>
                  change emitting _ _ = displaced cut block.length (emitting _ _)
                  rw [displaced_emitting, ← ih _ _ place']
                  simp [here, List.map_flatten]
  | close i rest ends ih =>
      rw [List.length_cons] at place
      rw [List.cons_append, List.cons_append]
      cases stack with
      | nil =>
          rw [List.map_nil, forward_close_nil ends, forward_close_nil ends, displaced_error,
            displace_of_lt block.length (by omega)]
      | cons newest older =>
          rw [List.map_cons, forward_close_cons ends, forward_close_cons ends,
            ih _ (position + 1) (by omega)]
  | content i rest isContent ih =>
      rw [List.length_cons] at place
      rw [List.cons_append, List.cons_append, forward_content isContent, forward_content isContent,
        displaced_emitting, ih _ (position + 1) (by omega)]

end IsDead

/-- A block with count zero is dead code wherever it stands: with it, a program comes to the same
instructions as without it, or to the same fault at the same instruction. -/
theorem expand_insert_dead_block (u body v : Program) (startLine endLine : Option Int)
    (balanced : Balanced body) :
    expand (u ++ [⟨.repeat 0, startLine⟩] ++ body ++ [⟨.close, endLine⟩] ++ v) =
      match expand (u ++ v) with
      | .ok out => .ok out
      | .error e => .error
        (if e.line < u.length then e else { e with line := e.line + (body.length + 2) }) := by
  have dead : IsDead (⟨.repeat 0, startLine⟩ :: (body ++ [⟨.close, endLine⟩])) :=
    ⟨_, body, _, rfl, rfl, balanced, rfl⟩
  have unrolled (p : Program) : p.expand = forward [] 0 p := Walk.run_eq_forward (.start p) rfl
  have split : u ++ [⟨.repeat 0, startLine⟩] ++ body ++ [⟨.close, endLine⟩] ++ v =
      u ++ ((⟨.repeat 0, startLine⟩ :: (body ++ [⟨.close, endLine⟩])) ++ v) := by
    simp
  have inserted := dead.forward_insert u v [] 0 (Nat.zero_add _).symm
  rw [List.map_nil, ← unrolled, ← unrolled, ← split] at inserted
  have size : List.length (⟨.repeat 0, startLine⟩ :: (body ++ [⟨.close, endLine⟩])) =
      body.length + 2 := by
    simp
  rw [inserted, size]
  cases expand (u ++ v) with
  | ok out => rfl
  | error e => rfl

/-- In a block that is run twice, with one end too many behind it: the fault stays with that end. -/
theorem expand_insert_dead_block_in_block :
    Balanced [⟨.repeat 3, none⟩, ⟨.close, none⟩] ∧
      expand ([⟨.repeat 2, none⟩] ++ [⟨.repeat 0, none⟩] ++
        [⟨.repeat 3, none⟩, ⟨.close, none⟩] ++ [⟨.close, none⟩] ++
        [⟨.unit "mm", none⟩, ⟨.close, none⟩, ⟨.close, none⟩]) = .error ⟨7, .unmatchedEnd⟩ := by
  have balanced : Balanced [⟨.repeat 3, none⟩, ⟨.close, none⟩] := by decide
  have without : expand ([⟨.repeat 2, none⟩] ++
      [⟨.unit "mm", none⟩, ⟨.close, none⟩, ⟨.close, none⟩]) = .error ⟨3, .unmatchedEnd⟩ := by
    iterate 5 refine (Walk.run_next rfl).trans ?_
    exact Walk.run_failed rfl
  refine ⟨balanced, ?_⟩
  rw [expand_insert_dead_block _ _ _ _ _ balanced, without]
  rfl

end Program

end Wireform
