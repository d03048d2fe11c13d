import Wireform.Proofs.Gcode.Block
import Wireform.Proofs.Program.Line
import Wireform.Proofs.Program.Source

/-!
What can come of compiling a text.

Lines make only some commands, unrolling puts out nothing but instructions of the program other than
starts and ends of blocks, and a machine carries out just the flat programs. So a text that is read
and unrolled has G-code, and all that can go wrong is a fault of the program or a repeat count that
is too long.

* `isStatement_of_ofSource`: the commands that lines make.
* `Walk.within_of_step`, `mem_of_expand`: what one step of the unrolling, and all of it, puts out.
* `generate_eq_ok_iff`: what a machine carries out.
* `ofSource_eq_countTooLong_iff`: when a count is too long.
-/

namespace Wireform

/-- Is the command one that a line can make? -/
def Command.IsStatement : Command → Prop
  | .unit code => code = "in" ∨ code = "mm"
  | .unspecified => False
  | _ => True

namespace Statement

/-! ## What lines make -/

variable {raw : List Char}

theorem Rule.At.isStatement {before : Option Char} {r : Rule} {s : List Char} {command : Command}
    (shape : r.At before s (.ok command)) : command.IsStatement := by
  cases shape with
  | @unit _ _ _ u _ _ _ _ => cases u <;> simp [Command.IsStatement, LengthUnit.code]
  | _ => trivial

/-- A literal stands for a number. -/
theorem NumberAt.exists_ofChars? {text literal : List Char} (number : NumberAt text literal) :
    ∃ x, Binary64.ofChars? literal = some x := by
  have value {text literal : List Char} (magnitude : Magnitude text literal) :
      (∃ x, Binary64.ofChars? literal = some x) ∧
        ∃ x, Binary64.ofChars? ('-' :: literal) = some x := by
    obtain ⟨nonempty, rfl⟩ := magnitude_iff.1 magnitude
    obtain ⟨unsigned, negative⟩ := ofChars?_written nonempty isDigit_of_mem_digitsOf
      (isDigit_of_mem_placesOf (text.dropWhile Char.isDigit))
    exact ⟨⟨_, unsigned⟩, ⟨_, negative⟩⟩
  cases number with
  | unsigned magnitude => exact (value magnitude).1
  | negative magnitude => exact (value magnitude).2

/-- The rule for repeats decides a line, by a row of `d` digits that is too long to be read. -/
structure LongCount (raw : List Char) (d : Nat) : Prop where
  passed : ∀ q ∈ [Rule.bend, .feed, .unit], ¬ q.Occurs (lowered raw)
  leftmost : ∃ front blanks digits rest,
    lowered raw = front ++ ("repeat".toList ++ (blanks ++ (digits ++ ':' :: rest))) ∧
      Blanks blanks ∧ (∀ c ∈ digits, c.isDigit = true) ∧ digits.length = d ∧
      ∀ front' text', lowered raw = front' ++ text' → front'.length < front.length →
        ∀ found, ¬ Rule.repeat.At front'.getLast? text' found
  long : 4300 < d

theorem eq_of_order {earlier later : List Rule} (order : Rule.order = earlier ++ .repeat :: later) :
    earlier = [.bend, .feed, .unit] := by
  have place : earlier.length = Rule.order.idxOf .repeat := by
    rw [order, List.idxOf_append_of_notMem, List.idxOf_cons_self, Nat.add_zero]
    intro mem
    have once : Rule.order.Nodup := by decide
    rw [order, List.nodup_append] at once
    exact once.2.2 _ mem _ List.mem_cons_self rfl
  have front : earlier = Rule.order.take earlier.length := by
    rw [order, List.take_left]
  rw [front, place]
  rfl

theorem longCount_iff {line : Int} {d : Nat} :
    Instruction.ofLine raw line = .error (.countTooLong d) ↔ LongCount raw d := by
  constructor
  · intro h
    have reads := Instruction.reads_ofLine raw line
    rw [h] at reads
    cases reads with
    | longCount order passed finds =>
        obtain ⟨front, text, split, shape, first⟩ := finds
        cases shape with
        | @longCount blanks digits rest apart all long =>
            rw [eq_of_order order] at passed
            exact ⟨passed, ⟨front, blanks, digits, rest, split, apart, all, rfl, first⟩, long⟩
  · rintro ⟨passed, ⟨front, blanks, digits, rest, split, apart, all, rfl, first⟩, long⟩
    have finds : Rule.repeat.Finds (lowered raw) (.error digits.length) :=
      ⟨front, _, split, .longCount apart all long, first⟩
    have order : Rule.order = [.bend, .feed, .unit] ++ .repeat :: [.close, .comment] := rfl
    have found := recognise_of_finds order passed finds
    simp only [Instruction.ofLine, recognise_lower_strip, found]

end Statement

open Statement

theorem Instruction.isStatement_of_ofLine {raw : List Char} {line : Int} {i : Instruction}
    (h : ofLine raw line = .ok i) : i.command.IsStatement := by
  have reads := reads_ofLine raw line
  rw [h] at reads
  cases reads with
  | statement order passed finds =>
      obtain ⟨front, text, -, shape, -⟩ := finds
      exact shape.isStatement
  | blank absent empty => trivial

namespace Program

variable {text : String} {p : Program}

/-- Each instruction of a text is what one of its lines makes. -/
theorem exists_line_of_ofSource (h : ofSource text = .ok p) {i : Instruction} (mem : i ∈ p) :
    ∃ (n : Nat) (raw : List Char), (text.toList.splitOn '\n')[n]? = some raw ∧
      Instruction.ofLine raw n = .ok i := by
  obtain ⟨size, each⟩ := ofLines_eq_ok h
  obtain ⟨n, inside, rfl⟩ := List.mem_iff_getElem.1 mem
  have there : (linesOf text.toList)[n]? = some ((linesOf text.toList)[n]) :=
    List.getElem?_eq_getElem (size ▸ inside)
  obtain ⟨j, hj, read⟩ := each n _ there
  rw [List.getElem?_eq_getElem inside] at hj
  cases hj
  rw [← linesOf_eq_splitOn]
  rw [Nat.zero_add] at read
  exact ⟨n, _, there, read⟩

theorem isStatement_of_ofSource (h : ofSource text = .ok p) :
    ∀ i ∈ p, i.command.IsStatement := by
  intro i mem
  obtain ⟨n, raw, -, read⟩ := exists_line_of_ofSource h mem
  exact Instruction.isStatement_of_ofLine read

/-- A count is too long in a text just where it is on the first line that is refused. -/
theorem ofSource_eq_countTooLong_iff {d : Nat} :
    ofSource text = .error (.countTooLong d) ↔
      ∃ (n : Nat) (raw : List Char), (text.toList.splitOn '\n')[n]? = some raw ∧ LongCount raw d ∧
        ∀ m < n, ∀ l, (text.toList.splitOn '\n')[m]? = some l →
          ∃ i, Instruction.ofLine l m = .ok i := by
  rw [ofSource, linesOf_eq_splitOn]
  generalize text.toList.splitOn '\n' = lines
  constructor
  · intro h
    obtain ⟨n, raw, there, refused, before⟩ := ofLines_eq_error h
    simp only [Nat.zero_add] at refused before
    exact ⟨n, raw, there, longCount_iff.1 refused, before⟩
  · rintro ⟨n, raw, there, long, before⟩
    have refused : Instruction.ofLine raw n = .error (.countTooLong d) := longCount_iff.2 long
    cases read : ofLines 0 lines with
    | ok p =>
        obtain ⟨i, -, parsed⟩ := (ofLines_eq_ok read).2 n raw there
        rw [Nat.zero_add, refused] at parsed
        cases parsed
    | error e =>
        -- Two first lines that are refused are the same line.
        obtain ⟨m, l, hm, refused', before'⟩ := ofLines_eq_error read
        simp only [Nat.zero_add] at refused' before'
        rcases Nat.lt_trichotomy m n with less | rfl | more
        · obtain ⟨i, parsed⟩ := before m less l hm
          rw [refused'] at parsed
          cases parsed
        · rw [there] at hm
          cases hm
          rw [refused] at refused'
          cases refused'
          rfl
        · obtain ⟨i, parsed⟩ := before' n more raw there
          rw [refused] at parsed
          cases parsed

/-! ## What unrolling puts out -/

/-- All that a walk can still come by is in the program. -/
structure Walk.Within (w : Walk) (p : Program) : Prop where
  rest : w.rest ⊆ p
  body : ∀ o ∈ w.blocks, o.body ⊆ p

theorem Walk.within_start (p : Program) : (Walk.start p).Within p where
  rest := List.Subset.refl p
  body := by
    intro o none
    cases none

theorem subset_of_skipBlock? {rest after : Program} {depth n : Nat}
    (h : skipBlock? rest depth = some (n, after)) : after ⊆ rest := by
  obtain ⟨body, close, rfl, -⟩ := skipBlock?_eq_some_iff.1 h
  intro i mem
  exact List.mem_append_right _ (List.mem_cons_of_mem _ mem)

/-- A step stays within the program, and what it puts out is content of it. -/
theorem Walk.within_of_step {w v : Walk} {out : Program} (inside : w.Within p)
    (h : w.step = .next v out) :
    v.Within p ∧ ∀ i ∈ out, i ∈ p ∧ i.command.isContent = true := by
  have silent : ∀ i ∈ ([] : Program), i ∈ p ∧ i.command.isContent = true := by simp
  obtain ⟨position, rest, blocks⟩ := w
  obtain ⟨rest_subset, body_subset⟩ := inside
  cases rest with
  | nil => cases blocks <;> cases h
  | cons i rest =>
      have first : i ∈ p := rest_subset List.mem_cons_self
      have more : rest ⊆ p := fun j mem => rest_subset (List.mem_cons_of_mem _ mem)
      rcases Command.start_or_end_or_content i.command with ⟨count, starts⟩ | ends | content
      · cases count with
        | zero =>
            simp only [step, stepAt, starts] at h
            split at h
            · cases h
            · next skipped =>
              cases h
              exact ⟨⟨List.Subset.trans (subset_of_skipBlock? skipped) more, body_subset⟩, silent⟩
        | succ count =>
            simp only [step, stepAt, starts] at h
            cases h
            refine ⟨⟨more, ?_⟩, silent⟩
            rintro o ⟨⟩
            cases blocks with
            | none => exact more
            | some o => exact body_subset o rfl
      · simp only [step, stepAt, ends] at h
        split at h
        · cases h
        · next o =>
          cases h
          have body : o.body ⊆ p := body_subset o rfl
          refine ⟨?_, silent⟩
          unfold leaveBlock
          split
          · exact ⟨body, by rintro o ⟨⟩; exact body⟩
          · exact ⟨more, by rintro o ⟨⟩; exact body⟩
          · exact ⟨more, by rintro o ⟨⟩⟩
      · rw [step_content content] at h
        cases h
        refine ⟨⟨more, body_subset⟩, ?_⟩
        intro j mem
        rw [List.mem_singleton.1 mem]
        exact ⟨first, content⟩

theorem Walk.mem_of_run {w : Walk} {out flat : Program} (inside : w.Within p)
    (already : ∀ i ∈ out, i ∈ p ∧ i.command.isContent = true) (h : w.run out = .ok flat) :
    ∀ i ∈ flat, i ∈ p ∧ i.command.isContent = true := by
  induction w, out using Walk.run.induct with
  | case1 w out finished =>
      rw [run_finished finished] at h
      cases h
      simpa using already
  | case2 w out e failed =>
      rw [run_failed failed] at h
      cases h
  | case3 w out v more next ih =>
      obtain ⟨inside', put⟩ := within_of_step inside next
      rw [run_next next] at h
      refine ih inside' ?_ h
      intro i mem
      exact (List.mem_append.1 mem).elim (put i) (already i)

theorem mem_of_expand {flat : Program} (h : p.expand = .ok flat) :
    ∀ i ∈ flat, i ∈ p ∧ i.command.isContent = true :=
  Walk.mem_of_run (Walk.within_start p) (by simp) h

/-- What a text holds once it is unrolled. -/
theorem command_of_expand {flat : Program} (parsed : ofSource text = .ok p)
    (expanded : p.expand = .ok flat) :
    ∀ i ∈ flat, i.command = .unit "in" ∨ i.command = .unit "mm" ∨ (∃ x, i.command = .feed x) ∨
      (∃ x, i.command = .bend x) ∨ i.command = .comment := by
  intro i mem
  obtain ⟨held, content⟩ := mem_of_expand expanded i mem
  have statement := isStatement_of_ofSource parsed i held
  cases command : i.command with
  | unit code =>
      rw [command] at statement
      rcases statement with rfl | rfl
      · exact .inl rfl
      · exact .inr (.inl rfl)
  | feed x => exact .inr (.inr (.inl ⟨x, rfl⟩))
  | bend x => exact .inr (.inr (.inr (.inl ⟨x, rfl⟩)))
  | comment => exact .inr (.inr (.inr (.inr rfl)))
  | «repeat» count =>
      rw [command] at content
      cases content
  | close =>
      rw [command] at content
      cases content
  | unspecified =>
      rw [command] at statement
      cases statement

end Program

namespace Gcode

/-! ## What a machine carries out -/

variable {c : Settings} {m m' : Machine} {p : Program} {i : Instruction} {b : Block}

theorem emit_eq_ok_iff : (∃ r, m.emit c i = .ok r) ↔ i.command.isFlat = true := by
  unfold Machine.emit
  cases i.command <;> simp [Command.isFlat]

theorem blocks_eq_none_iff : (m.blocks c p).2 = none ↔ p.isFlat = true := by
  induction p generalizing m with
  | nil => simp [Machine.blocks, Program.isFlat]
  | cons i p ih =>
      rw [Program.isFlat, List.all_cons, Bool.and_eq_true, ← emit_eq_ok_iff (c := c) (m := m)]
      cases emitted : m.emit c i with
      | error e => simp [Machine.blocks, emitted]
      | ok r => simp [Machine.blocks, emitted, ih, Program.isFlat]

theorem generate_eq_ok_iff : (∃ lines, generate c p = .ok lines) ↔ p.isFlat = true := by
  rw [← blocks_eq_none_iff (c := c) (m := Machine.initial)]
  unfold generate
  rcases Machine.initial.blocks c p with ⟨bs, none | e⟩ <;> simp

theorem notices_bendBlock (angle : Binary64) (line line' : Option Int) (code : String) :
    Notice.unknownUnit code line' ∉ (m.bendBlock c angle line).1.notices := by
  unfold Machine.bendBlock
  split <;> simp

theorem notices_of_emit (statement : i.command.IsStatement) (h : m.emit c i = .ok (b, m')) :
    ∀ code line, Notice.unknownUnit code line ∉ b.notices := by
  intro code line
  unfold Machine.emit at h
  split at h
  · cases h
    simp [Machine.feedBlock]
  · next angle _ =>
    have block := (Prod.mk.inj (Except.ok.inj h)).1
    rw [← block]
    exact notices_bendBlock angle i.line line code
  · next unit =>
    cases h
    rw [unit] at statement
    rcases statement with rfl | rfl <;> simp [Machine.unitBlock, LengthUnit.ofCode?]
  · cases h
    simp
  · cases h

theorem notices_of_blocks (statements : ∀ i ∈ p, i.command.IsStatement) :
    ∀ b ∈ (m.blocks c p).1, ∀ code line, Notice.unknownUnit code line ∉ b.notices := by
  induction p generalizing m with
  | nil => simp [Machine.blocks]
  | cons i p ih =>
      obtain ⟨first, more⟩ := List.forall_mem_cons.1 statements
      cases emitted : m.emit c i with
      | error e => simp [Machine.blocks, emitted]
      | ok r =>
          simp only [Machine.blocks, emitted, List.forall_mem_cons]
          exact ⟨notices_of_emit first emitted, ih more⟩

theorem unknownUnit_not_mem_notices (statements : ∀ i ∈ p, i.command.IsStatement) (code : String)
    (line : Option Int) : Notice.unknownUnit code line ∉ notices c p := by
  unfold notices
  rw [List.mem_append, List.mem_flatMap]
  rintro (⟨b, mem, said⟩ | said)
  · exact notices_of_blocks statements b mem code line said
  · split at said <;> simp at said

end Gcode

/-! ## What comes of a text -/

/-- A text is refused when it is read or when it is unrolled, or else it has G-code. -/
theorem compile_cases (c : Settings) (text : String) :
    (∃ e, Program.ofSource text = .error e ∧ compile c text = ⟨[], .error (.source e)⟩) ∨
    (∃ p e, Program.ofSource text = .ok p ∧ p.expand = .error e ∧
      compile c text = ⟨[.parsed p.length], .error (.source (.fault e))⟩) ∨
    ∃ p flat lines, Program.ofSource text = .ok p ∧ p.expand = .ok flat ∧
      Gcode.generate c flat = .ok lines ∧
      compile c text = ⟨.parsed p.length :: .expanded p.length flat.length ::
        Gcode.notices c flat ++ [.compiled p.length flat.length], .ok (Gcode.render lines)⟩ := by
  cases parsed : Program.ofSource text with
  | error e =>
      refine .inl ⟨e, rfl, ?_⟩
      simp only [compile, parsed]
  | ok p =>
      cases expanded : p.expand with
      | error e =>
          refine .inr (.inl ⟨p, e, rfl, expanded, ?_⟩)
          simp only [compile, parsed, expanded]
      | ok flat =>
          have isFlat : flat.isFlat = true := by
            rw [Program.isFlat, List.all_eq_true]
            intro i mem
            rcases Program.command_of_expand parsed expanded i mem with
              h | h | ⟨x, h⟩ | ⟨x, h⟩ | h <;> rw [h] <;> rfl
          obtain ⟨lines, generated⟩ := Gcode.generate_eq_ok_iff.2 isFlat
          refine .inr (.inr ⟨p, flat, lines, rfl, expanded, generated, ?_⟩)
          simp only [compile, parsed, expanded, generated]

theorem compile_eq_countTooLong_iff {c : Settings} {text : String} {d : Nat} :
    (compile c text).outcome = .error (.source (.countTooLong d)) ↔
      Program.ofSource text = .error (.countTooLong d) := by
  rcases compile_cases c text with
    ⟨e, refused, h⟩ | ⟨p, e, parsed, -, h⟩ | ⟨p, flat, lines, parsed, -, -, h⟩
  · simp [h, refused]
  · simp [h, parsed]
  · simp [h, parsed]

theorem LocatedFault.IsAbout.kind {lines : List (List Char)} {e : LocatedFault}
    (about : e.IsAbout lines) :
    (∃ s, e.fault = .unrecognised s) ∨ e.fault = .unmatchedEnd ∨ e.fault = .unmatchedRepeat := by
  cases about with
  | unrecognised => exact .inl ⟨_, rfl⟩
  | unmatchedEnd => exact .inr (.inl rfl)
  | unmatchedRepeat => exact .inr (.inr rfl)

namespace Compiler

variable {k : Compiler} {text : String}

theorem handle_compile (k : Compiler) (text : String) :
    (k.handle (.compile text)).1 = ⟨(compile k.settings text).notices,
      ((compile k.settings text).outcome.map .gcode).mapError .compile⟩ :=
  rfl

theorem unknownUnit_not_mem_compile (code : String) (line : Option Int) :
    Notice.unknownUnit code line ∉ (k.handle (.compile text)).1.notices := by
  rw [handle_compile]
  rcases compile_cases k.settings text with
    ⟨e, -, h⟩ | ⟨p, e, -, -, h⟩ | ⟨p, flat, lines, parsed, expanded, -, h⟩
  · simp [h]
  · simp [h]
  · have quiet : Notice.unknownUnit code line ∉ Gcode.notices k.settings flat := by
      refine Gcode.unknownUnit_not_mem_notices ?_ code line
      intro i mem
      exact Program.isStatement_of_ofSource parsed i (Program.mem_of_expand expanded i mem).1
    simp [h, quiet]

/-- What can come of compiling a text: G-code, a fault of the program, or a refused count. -/
theorem outcome_cases (k : Compiler) (text : String) :
    (∃ g, (k.handle (.compile text)).1.outcome = .ok (.gcode g)) ∨
    (∃ e, (k.handle (.compile text)).1.outcome = .error (.compile (.source (.fault e))) ∧
      e.IsAbout (text.toList.splitOn '\n')) ∨
    ∃ d, (k.handle (.compile text)).1.outcome = .error (.compile (.source (.countTooLong d))) ∧
      Program.ofSource text = .error (.countTooLong d) := by
  rw [handle_compile]
  rcases compile_cases k.settings text with
    ⟨e, refused, h⟩ | ⟨p, e, parsed, refused, h⟩ | ⟨p, flat, lines, -, -, -, h⟩
  · rw [h]
    cases e with
    | fault e => exact .inr (.inl ⟨e, rfl, Program.isAbout_of_ofSource refused⟩)
    | countTooLong d => exact .inr (.inr ⟨d, rfl, refused⟩)
  · rw [h]
    exact .inr (.inl ⟨e, rfl, Program.isAbout_of_expand parsed refused⟩)
  · rw [h]
    exact .inl ⟨_, rfl⟩

theorem outcome_eq_countTooLong_iff {d : Nat} :
    (k.handle (.compile text)).1.outcome = .error (.compile (.source (.countTooLong d))) ↔
      Program.ofSource text = .error (.countTooLong d) := by
  rw [handle_compile, ← compile_eq_countTooLong_iff (c := k.settings)]
  cases (compile k.settings text).outcome with
  | ok g => exact iff_of_false nofun nofun
  | error e =>
      change Except.error (Refusal.compile e) = .error (.compile _) ↔ _
      simp

/-- A text compiles, or the program has a fault of one of three kinds, or a repeat count on its
first bad line is too long. No instruction without G-code, no unknown unit and no literal without a
value comes up on the way: a machine carries out just the flat programs, and what a text holds once
it is unrolled is flat, with known units. -/
theorem compile_fails_only_for_faults (k : Compiler) (text : String) :
    ((∃ g, (k.handle (.compile text)).1.outcome = .ok (.gcode g)) ∨
      (∃ e, (k.handle (.compile text)).1.outcome = .error (.compile (.source (.fault e))) ∧
        ((∃ s, e.fault = .unrecognised s) ∨ e.fault = .unmatchedEnd ∨
          e.fault = .unmatchedRepeat)) ∨
      ∃ d, (k.handle (.compile text)).1.outcome =
        .error (.compile (.source (.countTooLong d)))) ∧
    (∀ d, (k.handle (.compile text)).1.outcome =
        .error (.compile (.source (.countTooLong d))) ↔
      ∃ (n : Nat) (raw : List Char), (text.toList.splitOn '\n')[n]? = some raw ∧
        LongCount raw d ∧ ∀ m < n, ∀ l, (text.toList.splitOn '\n')[m]? = some l →
          ∃ i, Instruction.ofLine l m = .ok i) ∧
    (∀ code line, Notice.unknownUnit code line ∉ (k.handle (.compile text)).1.notices) ∧
    (∀ arg literal, NumberAt arg literal → ∃ x, Binary64.ofChars? literal = some x) ∧
    (∀ word ∈ ["inches", "inch", "in", "millimeters", "millimeter", "mm"],
      ∃ u, LengthUnit.ofWord? word = some u) ∧
    (∀ p flat, Program.ofSource text = .ok p → p.expand = .ok flat →
      ∀ i ∈ flat, i.command = .unit "in" ∨ i.command = .unit "mm" ∨ (∃ x, i.command = .feed x) ∨
        (∃ x, i.command = .bend x) ∨ i.command = .comment) ∧
    ∀ c p, (∃ lines, Gcode.generate c p = .ok lines) ↔ p.isFlat = true := by
  refine ⟨?_, ?_, unknownUnit_not_mem_compile, ?_, ?_, ?_, ?_⟩
  · rcases outcome_cases k text with compiled | ⟨e, faulty, about⟩ | ⟨d, long, -⟩
    · exact .inl compiled
    · exact .inr (.inl ⟨e, faulty, about.kind⟩)
    · exact .inr (.inr ⟨d, long⟩)
  · intro d
    rw [outcome_eq_countTooLong_iff, Program.ofSource_eq_countTooLong_iff]
  · intro arg literal number
    exact number.exists_ofChars?
  · intro word known
    obtain ⟨u, mem⟩ := mem_vocabulary_iff.1 known
    exact ⟨u, ofWord?_of_mem_vocabulary mem⟩
  · intro p flat parsed expanded
    exact Program.command_of_expand parsed expanded
  · intro c p
    exact Gcode.generate_eq_ok_iff

end Compiler

end Wireform
