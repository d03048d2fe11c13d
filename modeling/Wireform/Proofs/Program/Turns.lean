import Mathlib.Algebra.Order.BigOperators.Group.Finset
import Wireform.Proofs.Program.Forward

/-!
How long unrolling takes.

The walk goes back only while the oldest open block has passes left, and each time from the same
end: the first one that is reached behind its start. So an instruction up to that end is read once
in each pass, one behind it is read once until the block is left, and a block that starts after that
lies behind everything that has been read. Starts inside the block are opened again in each pass,
but their counts are never looked at.

* `Walk.Moves`: what one turn of the loop can do.
* `Walk.readsLeft`: how often the instruction at a position may still be read.
* `Walk.readsLeft_of_moves`: each turn uses up one read of the instruction where it stands.
* `Walk.count_trail_le`: so much for a whole run.
-/

namespace Wireform

namespace Program

/-- The largest count of a block, or zero if there is none. -/
def largestCount : Program → Nat
  | [] => 0
  | i :: rest =>
    match i.command with
    | .repeat count => max count (largestCount rest)
    | _ => largestCount rest

theorem le_largestCount {p : Program} {i : Instruction} {count : Nat} (mem : i ∈ p)
    (starts : i.command = .repeat count) : count ≤ p.largestCount := by
  induction p with
  | nil => cases mem
  | cons j p ih =>
      rw [largestCount]
      rcases List.mem_cons.1 mem with rfl | mem
      · rw [starts]
        exact Nat.le_max_left _ _
      · split
        · exact Nat.le_trans (ih mem) (Nat.le_max_right _ _)
        · exact ih mem

/-- How far ahead the first end lies that is reached, blocks with count zero being passed over; or
what reading cannot get past. -/
def distanceToEnd : Program → Nat
  | [] => 0
  | i :: rest =>
    match i.command with
    | .repeat 0 =>
      match matchingEnd? rest with
      | none => 0
      | some n => distanceToEnd (rest.drop (n + 1)) + (n + 2)
    | .repeat _ => distanceToEnd rest + 1
    | .close => 0
    | _ => distanceToEnd rest + 1
termination_by p => p.length
decreasing_by all_goals (simp; try omega)

section Distance

variable {i : Instruction} {rest : Program}

theorem distanceToEnd_content (h : i.command.isContent = true) :
    distanceToEnd (i :: rest) = distanceToEnd rest + 1 := by
  cases command : i.command <;> simp_all [distanceToEnd, Command.isContent]

theorem distanceToEnd_skipped {close : Instruction} {body : Program}
    (starts : i.command = .repeat 0) (balanced : Balanced body) (ends : close.command = .close) :
    distanceToEnd (i :: (body ++ close :: rest)) = distanceToEnd rest + (body.length + 2) := by
  rw [distanceToEnd]
  simp [starts, matchingEnd?_append balanced ends]

theorem distanceToEnd_start {k : Nat} (h : i.command = .repeat (k + 1)) :
    distanceToEnd (i :: rest) = distanceToEnd rest + 1 := by
  simp only [distanceToEnd, h]

theorem distanceToEnd_close (h : i.command = .close) : distanceToEnd (i :: rest) = 0 := by
  simp only [distanceToEnd, h]

end Distance

namespace Walk

/-! ## One turn of the loop -/

/-- What a turn of the loop does if the walk goes on, with what it puts out. -/
inductive Moves : Walk → Walk → Program → Prop
  | content {position : Nat} {i : Instruction} {rest : Program} {blocks : Option OpenBlocks}
      (isContent : i.command.isContent = true) :
      Moves ⟨position, i :: rest, blocks⟩ ⟨position + 1, rest, blocks⟩ [i]
  /-- A block with count zero is passed over. -/
  | skipped {position : Nat} {i close : Instruction} {body rest : Program}
      {blocks : Option OpenBlocks} (starts : i.command = .repeat 0) (balanced : Balanced body)
      (ends : close.command = .close) :
      Moves ⟨position, i :: (body ++ close :: rest), blocks⟩
        ⟨position + (body.length + 2), rest, blocks⟩ []
  /-- A block becomes the oldest one. -/
  | outermost {position k : Nat} {i : Instruction} {rest : Program}
      (starts : i.command = .repeat (k + 1)) :
      Moves ⟨position, i :: rest, none⟩ ⟨position + 1, rest, some ⟨position, rest, k, []⟩⟩ []
  /-- A block inside another one. -/
  | nested {position k : Nat} {i : Instruction} {rest : Program} {o : OpenBlocks}
      (starts : i.command = .repeat (k + 1)) :
      Moves ⟨position, i :: rest, some o⟩
        ⟨position + 1, rest, some { o with later := position :: o.later }⟩ []
  /-- The oldest block has a pass left and is run again. -/
  | again {position start k : Nat} {i : Instruction} {rest body : Program} {later : List Nat}
      (ends : i.command = .close) :
      Moves ⟨position, i :: rest, some ⟨start, body, k + 1, later⟩⟩
        ⟨start + 1, body, some ⟨start, body, k, later⟩⟩ []
  /-- The newest block is closed. -/
  | closed {position start newest : Nat} {i : Instruction} {rest body : Program}
      {later : List Nat} (ends : i.command = .close) :
      Moves ⟨position, i :: rest, some ⟨start, body, 0, newest :: later⟩⟩
        ⟨position + 1, rest, some ⟨start, body, 0, later⟩⟩ []
  /-- The oldest block is closed. -/
  | left {position start : Nat} {i : Instruction} {rest body : Program}
      (ends : i.command = .close) :
      Moves ⟨position, i :: rest, some ⟨start, body, 0, []⟩⟩ ⟨position + 1, rest, none⟩ []

theorem moves_of_step {w v : Walk} {out : Program} (h : w.step = .next v out) : Moves w v out := by
  obtain ⟨position, rest, blocks⟩ := w
  cases rest with
  | nil => cases blocks <;> cases h
  | cons i rest =>
      rcases Command.start_or_end_or_content i.command with ⟨_ | k, hi⟩ | hi | hi
      · have skip := skipBlock?_zero rest
        cases found : matchingEnd? rest with
        | none =>
            rw [found, Option.map_none] at skip
            simp only [step, stepAt, hi, skip] at h
            cases h
        | some n =>
            obtain ⟨body, close, after, rfl, ends, rfl, balanced⟩ := split_of_matchingEnd? found
            rw [found, Option.map_some] at skip
            simp only [step, stepAt, hi, skip] at h
            have size : position + 1 + (body.length + 1) = position + (body.length + 2) := by omega
            have behind : (body ++ close :: after).drop (body.length + 1) = after := by simp
            rw [size, behind] at h
            cases h
            exact .skipped hi balanced ends
      · simp only [step, stepAt, hi] at h
        cases h
        cases blocks with
        | none => exact .outermost hi
        | some o => exact .nested hi
      · cases blocks with
        | none =>
            simp only [step, stepAt, hi] at h
            cases h
        | some o =>
            simp only [step, stepAt, hi] at h
            cases h
            obtain ⟨start, body, _ | k, later⟩ := o
            · cases later with
              | nil => exact .left hi
              | cons newest later => exact .closed hi
            · exact .again hi
      · rw [step_content hi] at h
        cases h
        exact .content hi

/-- The oldest open block, seen from a position of the program: a pass that is followed by another
is on its way to the same end as the first one. -/
structure OpenAt (p : Program) (position : Nat) (rest : Program) (o : OpenBlocks) : Prop where
  body : o.body = p.drop (o.start + 1)
  started : o.start < position
  counted : o.passes < p.largestCount
  same : o.passes ≠ 0 → position + distanceToEnd rest = o.start + 1 + distanceToEnd o.body

/-- The walk is one along a program. -/
structure Along (p : Program) (w : Walk) : Prop where
  rest : w.rest = p.drop w.position
  blocks : ∀ o ∈ w.blocks, OpenAt p w.position w.rest o

section Along

variable {p rest rest' out : Program} {position : Nat} {i : Instruction} {w v : Walk}

theorem along_start (p : Program) : Along p (.start p) where
  rest := rfl
  blocks := by
    intro o none
    cases none

theorem drop_of_cons (h : i :: rest = p.drop position) :
    rest = p.drop (position + 1) ∧ p[position]? = some i := by
  constructor
  · rw [← List.drop_drop, ← h]
    rfl
  · rw [← List.head?_drop, ← h]
    rfl

/-- Further on, but not past the end that the pass is on its way to. -/
theorem OpenAt.further {o : OpenBlocks} (opened : OpenAt p position rest o) (n : Nat)
    (nearer : distanceToEnd rest = distanceToEnd rest' + n) : OpenAt p (position + n) rest' o where
  body := opened.body
  started := Nat.lt_add_right n opened.started
  counted := opened.counted
  same := by
    intro left
    have := opened.same left
    omega

/-- A turn leads on along the program. -/
theorem Along.of_moves (along : Along p w) (moves : Moves w v out) : Along p v := by
  obtain ⟨ahead, blocks⟩ := along
  cases moves with
  | content isContent =>
      refine ⟨(drop_of_cons ahead).1, fun o mem => ?_⟩
      exact (blocks o mem).further 1 (distanceToEnd_content isContent)
  | @skipped position i close body rest _ starts balanced ends =>
      refine ⟨?_, fun o mem => ?_⟩
      · have size : (i :: (body ++ [close])).length = body.length + 2 := by simp
        have split : p.drop position = i :: (body ++ [close]) ++ rest := by
          rw [← ahead]
          simp
        rw [← List.drop_drop, split, ← size, List.drop_left]
      · exact (blocks o mem).further _ (distanceToEnd_skipped starts balanced ends)
  | @outermost position k i rest starts =>
      obtain ⟨behind, here⟩ := drop_of_cons ahead
      refine ⟨behind, fun o mem => ?_⟩
      obtain rfl := Option.some.inj mem
      exact ⟨behind, Nat.lt_succ_self position,
        le_largestCount (List.mem_of_getElem? here) starts, fun _ => rfl⟩
  | nested starts =>
      refine ⟨(drop_of_cons ahead).1, fun o mem => ?_⟩
      obtain rfl := Option.some.inj mem
      obtain ⟨body, started, counted, same⟩ := (blocks _ rfl).further 1 (distanceToEnd_start starts)
      exact ⟨body, started, counted, same⟩
  | again ends =>
      obtain ⟨body, -, counted, -⟩ := blocks _ rfl
      refine ⟨body, fun o mem => ?_⟩
      obtain rfl := Option.some.inj mem
      exact ⟨body, Nat.lt_succ_self _, Nat.lt_of_succ_lt counted, fun _ => rfl⟩
  | closed ends =>
      obtain ⟨body, started, counted, -⟩ := blocks _ rfl
      refine ⟨(drop_of_cons ahead).1, fun o mem => ?_⟩
      obtain rfl := Option.some.inj mem
      exact ⟨body, Nat.lt_succ_of_lt started, counted, fun left => absurd rfl left⟩
  | left ends =>
      refine ⟨(drop_of_cons ahead).1, fun o mem => ?_⟩
      cases mem

end Along

/-! ## Reads -/

/-- How often the instruction at position `n` may still be read, no block being run more than
`bound` times. -/
def readsLeft (bound n : Nat) (w : Walk) : Nat :=
  match w.blocks with
  | none => if n < w.position then 0 else bound
  | some o =>
    if n ≤ o.start then 0
    else if n < w.position then o.passes
    else if n ≤ w.position + distanceToEnd w.rest then o.passes + 1
    else bound

variable {p out : Program} {w v : Walk} {bound : Nat}

/-- On the way to an end, the instructions that are passed have one read less. -/
theorem readsLeft_further {position m : Nat} {rest rest' : Program} {blocks : Option OpenBlocks}
    (opened : ∀ o ∈ blocks, o.start < position) (pos : 0 < bound) (on : 0 < m)
    (nearer : distanceToEnd rest = distanceToEnd rest' + m) (n : Nat) :
    readsLeft bound n ⟨position + m, rest', blocks⟩ + (if position = n then 1 else 0) ≤
      readsLeft bound n ⟨position, rest, blocks⟩ := by
  cases blocks with
  | none =>
      simp only [readsLeft]
      split_ifs <;> omega
  | some o =>
      have started := opened o rfl
      simp only [readsLeft, nearer]
      split_ifs <;> omega

/-- Each turn uses up one read of the instruction where it stands. -/
theorem readsLeft_of_moves (along : Along p w) (enough : p.largestCount ≤ bound) (pos : 0 < bound)
    (moves : Moves w v out) (n : Nat) :
    v.readsLeft bound n + (if w.position = n then 1 else 0) ≤ w.readsLeft bound n := by
  have opened : ∀ o ∈ w.blocks, o.start < w.position := fun o mem => (along.blocks o mem).started
  cases moves with
  | content isContent =>
      exact readsLeft_further opened pos Nat.one_pos (distanceToEnd_content isContent) n
  | skipped starts balanced ends =>
      exact readsLeft_further opened pos (Nat.succ_pos _)
        (distanceToEnd_skipped starts balanced ends) n
  | outermost starts =>
      have few := le_largestCount (List.mem_of_getElem? (drop_of_cons along.rest).2) starts
      simp only [readsLeft]
      split_ifs <;> omega
  | nested starts =>
      exact readsLeft_further opened pos Nat.one_pos (distanceToEnd_start starts) n
  | again ends =>
      -- The end where this pass goes back is the one that the next pass is on its way to.
      obtain ⟨-, started, counted, same⟩ := along.blocks _ rfl
      have back := same (Nat.succ_ne_zero _)
      simp only [distanceToEnd_close ends] at back
      simp only [readsLeft, distanceToEnd_close ends, ← back]
      split_ifs <;> omega
  | @closed position start _ _ _ _ _ ends =>
      have started : start < position := opened _ rfl
      simp only [readsLeft, distanceToEnd_close ends]
      split_ifs <;> omega
  | @left position start _ _ _ ends =>
      have started : start < position := opened _ rfl
      simp only [readsLeft, distanceToEnd_close ends]
      split_ifs <;> omega

/-- An instruction that is about to be read has a read left. -/
theorem readsLeft_pos (along : Along p w) (pos : 0 < bound) : 0 < w.readsLeft bound w.position := by
  rw [readsLeft]
  split
  · rw [if_neg (Nat.lt_irrefl _)]
    exact pos
  · next o opened =>
    have started := (along.blocks o opened).started
    rw [if_neg (Nat.not_le.2 started), if_neg (Nat.lt_irrefl _), if_pos (Nat.le_add_right _ _)]
    exact Nat.succ_pos _

/-- The position of the instruction that is read at a point; none behind the program. -/
def reads (w : Walk) : List Nat :=
  if w.rest.isEmpty then [] else [w.position]

/-- The positions of the instructions that are read from a point on, one for each turn of the
loop. -/
def trail (w : Walk) : List Nat :=
  match _h : w.step with
  | .next v _ => w.reads ++ trail v
  | _ => w.reads
termination_by (w.span, w.passesLeft, w.rest.length)
decreasing_by exact (nearer_of_step _h).lex

theorem trail_next (h : w.step = .next v out) : w.trail = w.reads ++ v.trail := by
  rw [trail]
  split <;> simp_all

theorem trail_last (h : ∀ v out, w.step ≠ .next v out) : w.trail = w.reads := by
  rw [trail]
  split <;> simp_all

theorem exists_trail_eq (w : Walk) : ∃ later, w.trail = w.reads ++ later := by
  rw [trail]
  split
  · exact ⟨_, rfl⟩
  · exact ⟨[], (List.append_nil _).symm⟩

theorem Moves.reads_eq (moves : Moves w v out) : w.reads = [w.position] := by
  cases moves <;> rfl

theorem count_reads_le (along : Along p w) (pos : 0 < bound) (n : Nat) :
    w.reads.count n ≤ w.readsLeft bound n := by
  rw [reads]
  split
  · exact Nat.zero_le _
  · rw [List.count_singleton]
    split
    · next here =>
      rw [← beq_iff_eq.1 here]
      exact readsLeft_pos along pos
    · exact Nat.zero_le _

/-- No instruction is read more often than it may be. -/
theorem count_trail_le (along : Along p w) (enough : p.largestCount ≤ bound) (pos : 0 < bound)
    (n : Nat) : w.trail.count n ≤ w.readsLeft bound n := by
  induction w using trail.induct with
  | case1 w v out next ih =>
      have moves := moves_of_step next
      have later := ih (along.of_moves moves)
      have turn := readsLeft_of_moves along enough pos moves n
      have here : w.reads.count n = if w.position = n then 1 else 0 := by
        rw [moves.reads_eq, List.count_singleton]
        simp only [beq_iff_eq]
      rw [trail_next next, List.count_append, here]
      omega
  | case2 w last =>
      rw [trail_last last]
      exact count_reads_le along pos n

theorem lt_length_of_mem_trail (along : Along p w) {n : Nat} (mem : n ∈ w.trail) :
    n < p.length := by
  have here {w : Walk} (along : Along p w) (mem : n ∈ w.reads) : n < p.length := by
    rw [reads] at mem
    split at mem
    · cases mem
    · next some =>
      rw [List.mem_singleton.1 mem]
      rw [along.rest, List.isEmpty_iff, List.drop_eq_nil_iff] at some
      exact Nat.not_le.1 some
  induction w using trail.induct with
  | case1 w v out next ih =>
      rw [trail_next next, List.mem_append] at mem
      rcases mem with now | later
      · exact here along now
      · exact ih (along.of_moves (moves_of_step next)) later
  | case2 w last =>
      rw [trail_last last] at mem
      exact here along mem

/-- The walk, given up when its loop has made so many turns and there is still an instruction to
read. -/
def runFor : Nat → Walk → Program → Option (Except LocatedFault Program)
  | 0, w, out => if w.rest.isEmpty then some (w.run out) else none
  | turns + 1, w, out =>
    match w.step with
    | .finished => some (.ok out.reverse)
    | .failed e => some (.error e)
    | .next v more => runFor turns v (more ++ out)

/-- As many turns as the trail is long are enough. -/
theorem runFor_of_length_trail_le {turns : Nat} (h : w.trail.length ≤ turns) (out : Program) :
    runFor turns w out = some (w.run out) := by
  induction turns generalizing w out with
  | zero =>
      obtain ⟨later, trail⟩ := w.exists_trail_eq
      have none : w.reads = [] := by
        rw [trail, List.length_append] at h
        exact List.eq_nil_of_length_eq_zero (by omega)
      rw [runFor, if_pos]
      by_contra some
      rw [reads, if_neg some] at none
      cases none
  | succ turns ih =>
      rw [runFor]
      split
      · next finished => rw [run_finished finished]
      · next e failed => rw [run_failed failed]
      · next v more next =>
        rw [run_next next]
        refine ih ?_ _
        rw [trail_next next, (moves_of_step next).reads_eq, List.singleton_append,
          List.length_cons] at h
        exact Nat.le_of_succ_le_succ h

/-! ## Copies -/

theorem rest_of_finished (h : w.step = .finished) : w.rest = [] := by
  obtain ⟨position, rest, blocks⟩ := w
  cases rest with
  | nil => rfl
  | cons i rest =>
      simp only [step, stepAt] at h
      split at h
      · split at h <;> cases h
      · cases h
      · split at h <;> cases h
      · cases h

/-- Those of some positions in a program that hold content. -/
def contentOf (p : Program) (positions : List Nat) : List Nat :=
  positions.filter fun n => p[n]?.any fun i => i.command.isContent

/-- What a turn puts out is the instruction that it reads, if that is content. -/
theorem Moves.out_eq (along : Along p w) (moves : Moves w v out) :
    out.reverse = (contentOf p w.reads).filterMap (p[·]?) := by
  have other {position : Nat} {i : Instruction} (here : p[position]? = some i)
      (no : i.command.isContent = false) : [] = (contentOf p [position]).filterMap (p[·]?) := by
    simp [contentOf, here, no]
  rw [moves.reads_eq]
  cases moves with
  | content isContent =>
      have here := (drop_of_cons along.rest).2
      simp [contentOf, here, isContent]
  | skipped starts => exact other (drop_of_cons along.rest).2 (by rw [starts]; rfl)
  | outermost starts => exact other (drop_of_cons along.rest).2 (by rw [starts]; rfl)
  | nested starts => exact other (drop_of_cons along.rest).2 (by rw [starts]; rfl)
  | again ends => exact other (drop_of_cons along.rest).2 (by rw [ends]; rfl)
  | closed ends => exact other (drop_of_cons along.rest).2 (by rw [ends]; rfl)
  | left ends => exact other (drop_of_cons along.rest).2 (by rw [ends]; rfl)

/-- What a run puts out is the content that it reads, in order. -/
theorem out_eq_of_run {flat : Program} (along : Along p w) (h : w.run [] = .ok flat) :
    flat = (contentOf p w.trail).filterMap (p[·]?) := by
  induction w using trail.induct generalizing flat with
  | case1 w v out next ih =>
      have moves := moves_of_step next
      rw [run_nil_of_next next] at h
      cases later : v.run [] with
      | error e =>
          rw [later] at h
          cases h
      | ok more =>
          rw [later] at h
          cases h
          rw [trail_next next, contentOf, List.filter_append, List.filterMap_append,
            ih (along.of_moves moves) later, moves.out_eq along]
          rfl
  | case2 w last =>
      cases step : w.step with
      | next v out => exact absurd step (last v out)
      | failed e =>
          rw [run_failed step] at h
          cases h
      | finished =>
          rw [run_finished step] at h
          cases h
          rw [trail_last last, reads, rest_of_finished step]
          rfl

end Walk

/-- The positions of the instructions that are copied to the output, in order. -/
def copied (p : Program) : List Nat :=
  Walk.contentOf p (Walk.start p).trail

/-- Numbers below `n` of which none comes more than `bound` times. -/
theorem length_le_mul_of_count_le {l : List Nat} {n bound : Nat} (below : ∀ x ∈ l, x < n)
    (few : ∀ x, l.count x ≤ bound) : l.length ≤ n * bound := by
  have all : ∑ x ∈ Finset.range n, (l : Multiset Nat).count x = l.length :=
    Multiset.sum_count_eq_card fun x mem => Finset.mem_range.2 (below x (Multiset.mem_coe.1 mem))
  rw [← all]
  refine (Finset.sum_le_card_nsmul (Finset.range n) _ bound fun x _ => ?_).trans_eq ?_
  · rw [Multiset.coe_count]
    exact few x
  · rw [Finset.card_range, Nat.nsmul_eq_mul]

/-- Unrolling a program takes at most as many turns of the loop as it has instructions, times the
largest count; and no instruction is copied to the output more often than the largest count says,
however deep it lies. -/
theorem expand_turns_le (p : Program) :
    (Walk.start p).trail.length ≤ p.length * max 1 p.largestCount ∧
    (Walk.start p).runFor (p.length * max 1 p.largestCount) [] = some p.expand ∧
    ∀ out, p.expand = .ok out →
      out = p.copied.filterMap (p[·]?) ∧ ∀ n, p.copied.count n ≤ max 1 p.largestCount := by
  have along := Walk.along_start p
  have few (n : Nat) : (Walk.start p).trail.count n ≤ max 1 p.largestCount :=
    Walk.count_trail_le along (Nat.le_max_right _ _)
      (Nat.lt_of_lt_of_le Nat.one_pos (Nat.le_max_left _ _)) n
  have turns : (Walk.start p).trail.length ≤ p.length * max 1 p.largestCount :=
    length_le_mul_of_count_le (fun n mem => Walk.lt_length_of_mem_trail along mem) few
  refine ⟨turns, Walk.runFor_of_length_trail_le turns [], fun out unrolled => ?_⟩
  refine ⟨Walk.out_eq_of_run along unrolled, fun n => ?_⟩
  exact (List.filter_sublist.count_le n).trans (few n)

/-- In a block that is run twice, a block of count three: its content is copied twice, not six
times. -/
theorem expand_turns_le_nested :
    expand [⟨.repeat 2, none⟩, ⟨.repeat 3, none⟩, ⟨.unit "mm", none⟩, ⟨.close, none⟩,
        ⟨.close, none⟩, ⟨.close, none⟩] = .ok [⟨.unit "mm", none⟩, ⟨.unit "mm", none⟩] ∧
      ∀ n, (copied [⟨.repeat 2, none⟩, ⟨.repeat 3, none⟩, ⟨.unit "mm", none⟩, ⟨.close, none⟩,
        ⟨.close, none⟩, ⟨.close, none⟩]).count n ≤ 3 := by
  have unrolled : expand [⟨.repeat 2, none⟩, ⟨.repeat 3, none⟩, ⟨.unit "mm", none⟩,
      ⟨.close, none⟩, ⟨.close, none⟩, ⟨.close, none⟩] =
        .ok [⟨.unit "mm", none⟩, ⟨.unit "mm", none⟩] := by
    iterate 9 refine (Walk.run_next rfl).trans ?_
    exact Walk.run_finished rfl
  exact ⟨unrolled, ((expand_turns_le _).2.2 _ unrolled).2⟩

end Program

end Wireform
