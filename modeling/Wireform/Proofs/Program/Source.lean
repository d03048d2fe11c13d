import Wireform.Compiler
import Wireform.Proofs.Program.FaultPosition

/-!
Faults and the lines of a text.

A text is read line by line, one instruction for each line, so the positions at which unrolling
finds fault are line numbers. The fault of a text lies on one of its lines, and the line is one that
the fault can be about.

* `linesOf_eq_splitOn`: the lines of a text.
* `ofLines_eq_ok`, `ofLines_eq_error`: what reading the lines says of each of them.
-/

namespace Wireform

namespace Instruction

variable {raw : List Char} {line : Int}

theorem line_of_ofLine {i : Instruction} (h : ofLine raw line = .ok i) : i.line = some line := by
  simp only [ofLine] at h
  split at h
  · cases h
    rfl
  · cases h
  · cases h

/-- The only fault of a line is that it is no statement. -/
theorem fault_of_ofLine {e : LocatedFault} (h : ofLine raw line = .error (.fault e)) :
    e = ⟨line, .unrecognised (String.ofList (Text.strip raw))⟩ := by
  simp only [ofLine] at h
  split at h
  · cases h
  · cases h
  · cases h
    rfl

end Instruction

namespace Program

/-- The lines of a text are what its line ends part. -/
theorem linesOf_eq_splitOn (s : List Char) : linesOf s = s.splitOn '\n' := by
  induction s with
  | nil => rfl
  | cons c s ih =>
      obtain ⟨l, rest, split⟩ :=
        List.exists_cons_of_ne_nil (List.splitOnP_ne_nil (fun x => x == '\n') s)
      have longer : linesOf (c :: s) =
          if c = '\n' then [] :: l :: rest else (c :: l) :: rest := by
        rw [List.splitOn, split] at ih
        simp only [linesOf, List.foldr_cons] at ih ⊢
        rw [ih]
      simp only [longer, List.splitOn, List.splitOnP_cons_eq_if_modifyHead, split,
        List.modifyHead_cons, beq_iff_eq]

/-! ## Line by line -/

variable {line : Nat} {ls : List (List Char)}

/-- Lines that are read have one instruction each. -/
theorem ofLines_eq_ok {p : Program} (h : ofLines line ls = .ok p) :
    p.length = ls.length ∧ ∀ (n : Nat) (l : List Char), ls[n]? = some l →
      ∃ i, p[n]? = some i ∧ Instruction.ofLine l ((line + n : Nat) : Int) = .ok i := by
  induction ls generalizing line p with
  | nil =>
      cases h
      exact ⟨rfl, fun n l impossible => by cases impossible⟩
  | cons first ls ih =>
      rw [ofLines] at h
      split at h
      · cases h
      · next i read =>
        split at h
        · cases h
        · next is rest =>
          cases h
          obtain ⟨size, each⟩ := ih rest
          refine ⟨congrArg (· + 1) size, fun n l there => ?_⟩
          cases n with
          | zero =>
              cases there
              exact ⟨i, rfl, read⟩
          | succ n =>
              obtain ⟨j, hj, parsed⟩ := each n l there
              refine ⟨j, hj, ?_⟩
              rw [← parsed]
              congr 2
              omega

/-- Lines that are not read have a first one that is refused. -/
theorem ofLines_eq_error {e : SourceError} (h : ofLines line ls = .error e) :
    ∃ (n : Nat) (l : List Char), ls[n]? = some l ∧
      Instruction.ofLine l ((line + n : Nat) : Int) = .error e ∧
      ∀ m < n, ∀ l', ls[m]? = some l' →
        ∃ i, Instruction.ofLine l' ((line + m : Nat) : Int) = .ok i := by
  induction ls generalizing line with
  | nil => cases h
  | cons first ls ih =>
      rw [ofLines] at h
      split at h
      · next e' refused =>
        cases h
        exact ⟨0, first, rfl, refused, fun m impossible => absurd impossible (Nat.not_lt_zero m)⟩
      · next i read =>
        split at h
        · next e' rest =>
          cases h
          obtain ⟨n, l, there, refused, before⟩ := ih rest
          refine ⟨n + 1, l, there, ?_, fun m earlier l' hl' => ?_⟩
          · rw [← refused]
            congr 2
            omega
          · cases m with
            | zero =>
                cases hl'
                exact ⟨i, read⟩
            | succ m =>
                obtain ⟨j, parsed⟩ := before m (Nat.lt_of_succ_lt_succ earlier) l' hl'
                refine ⟨j, ?_⟩
                rw [← parsed]
                congr 2
                omega
        · cases h

end Program

/-- A fault and the lines of the text it was found in: the line exists and is one that the fault can
be about. -/
inductive LocatedFault.IsAbout (lines : List (List Char)) : LocatedFault → Prop
  /-- The first line that is refused. -/
  | unrecognised {n : Nat} {raw : List Char} (there : lines[n]? = some raw)
      (refused : Instruction.ofLine raw n =
        .error (.fault ⟨n, .unrecognised (String.ofList (Text.strip raw))⟩))
      (before : ∀ m < n, ∀ l, lines[m]? = some l → ∃ i, Instruction.ofLine l m = .ok i) :
      IsAbout lines ⟨n, .unrecognised (String.ofList (Text.strip raw))⟩
  /-- The end of a block, all lines being statements. -/
  | unmatchedEnd {n : Nat} {raw : List Char} (there : lines[n]? = some raw)
      (ends : Instruction.ofLine raw n = .ok ⟨.close, some n⟩)
      (all : ∀ m l, lines[m]? = some l → ∃ i, Instruction.ofLine l (m : Nat) = .ok i) :
      IsAbout lines ⟨n, .unmatchedEnd⟩
  /-- The start of a block, all lines being statements. -/
  | unmatchedRepeat {n count : Nat} {raw : List Char} (there : lines[n]? = some raw)
      (starts : Instruction.ofLine raw n = .ok ⟨.repeat count, some n⟩)
      (all : ∀ m l, lines[m]? = some l → ∃ i, Instruction.ofLine l (m : Nat) = .ok i) :
      IsAbout lines ⟨n, .unmatchedRepeat⟩

section IsAbout

variable {lines : List (List Char)} {e : LocatedFault}

theorem LocatedFault.IsAbout.line_nonneg (about : e.IsAbout lines) : 0 ≤ e.line := by
  cases about <;> exact Int.natCast_nonneg _

theorem LocatedFault.IsAbout.line_lt (about : e.IsAbout lines) : e.line < lines.length := by
  have inside {n : Nat} {raw : List Char} (there : lines[n]? = some raw) :
      (n : Int) < lines.length := Int.ofNat_lt.2 (List.getElem?_eq_some_iff.1 there).1
  cases about with
  | unrecognised there => exact inside there
  | unmatchedEnd there => exact inside there
  | unmatchedRepeat there => exact inside there

end IsAbout

namespace Program

variable {text : String}

theorem isAbout_of_ofSource {e : LocatedFault} (h : ofSource text = .error (.fault e)) :
    e.IsAbout (text.toList.splitOn '\n') := by
  rw [ofSource, linesOf_eq_splitOn] at h
  obtain ⟨n, raw, there, refused, before⟩ := ofLines_eq_error h
  simp only [Nat.zero_add] at refused before
  obtain rfl := Instruction.fault_of_ofLine refused
  exact .unrecognised there refused before

/-- Positions in the program of a text are line numbers. -/
theorem isAbout_of_expand {p : Program} (parsed : ofSource text = .ok p) {e : LocatedFault}
    (h : p.expand = .error e) : e.IsAbout (text.toList.splitOn '\n') := by
  rw [ofSource, linesOf_eq_splitOn] at parsed
  obtain ⟨size, each⟩ := ofLines_eq_ok parsed
  simp only [Nat.zero_add] at each
  have all (m : Nat) (l : List Char) (hl : (text.toList.splitOn '\n')[m]? = some l) :
      ∃ i, Instruction.ofLine l m = .ok i := by
    obtain ⟨i, -, read⟩ := each m l hl
    exact ⟨i, read⟩
  obtain ⟨n, ⟨command, line⟩, hi, kind⟩ := reaches_of_expand_eq_error h
  have inside : n < (text.toList.splitOn '\n').length :=
    size ▸ (List.getElem?_eq_some_iff.1 hi).1
  have there := List.getElem?_eq_getElem inside
  obtain ⟨j, hj, read⟩ := each n _ there
  obtain rfl : j = ⟨command, line⟩ := Option.some.inj (hj.symm.trans hi)
  obtain rfl : line = some (n : Int) := Instruction.line_of_ofLine read
  rcases kind with ⟨rfl, starts⟩ | ⟨rfl, ends⟩
  · cases command with
    | «repeat» count => exact .unmatchedRepeat there read all
    | _ => cases starts
  · obtain rfl := Command.endsBlock_iff.1 ends
    exact .unmatchedEnd there read all

end Program

/-- A fault comes from reading the lines or from unrolling. -/
theorem compile_eq_fault {c : Settings} {text : String} {e : LocatedFault}
    (h : (compile c text).outcome = .error (.source (.fault e))) :
    Program.ofSource text = .error (.fault e) ∨
      ∃ p, Program.ofSource text = .ok p ∧ p.expand = .error e := by
  unfold compile at h
  cases parsed : Program.ofSource text with
  | error e' =>
      rw [parsed] at h
      cases h
      exact .inl rfl
  | ok p =>
      rw [parsed] at h
      refine .inr ⟨p, rfl, ?_⟩
      cases expanded : p.expand with
      | error e' =>
          simp only [expanded] at h
          cases h
          rfl
      | ok flat =>
          simp only [expanded] at h
          split at h
          · cases h
          · cases h

/-- A fault that a compiler finds lies on a line of the text, and the line is one that the fault can
be about. -/
theorem Compiler.fault_isAbout_line (k : Compiler) (text : String) (e : LocatedFault)
    (h : (k.handle (.compile text)).1.outcome = .error (.compile (.source (.fault e)))) :
    0 ≤ e.line ∧ e.line < (text.toList.splitOn '\n').length ∧
      e.IsAbout (text.toList.splitOn '\n') := by
  have failed : (compile k.settings text).outcome = .error (.source (.fault e)) := by
    simp only [handle] at h
    cases outcome : (compile k.settings text).outcome with
    | ok gcode =>
        rw [outcome] at h
        cases h
    | error e' =>
        rw [outcome] at h
        cases h
        rfl
  have about : e.IsAbout (text.toList.splitOn '\n') := by
    rcases compile_eq_fault failed with refused | ⟨p, parsed, refused⟩
    · exact Program.isAbout_of_ofSource refused
    · exact Program.isAbout_of_expand parsed refused
  exact ⟨about.line_nonneg, about.line_lt, about⟩

/-- A block inside one that is run twice leaves the outer one open, which starts on the second
line. -/
theorem Compiler.fault_isAbout_line_nested :
    (Compiler.handle ⟨.stock⟩ (.compile "unit mm\nrepeat 2:\nrepeat 1:\nend\nend")).1.outcome =
        .error (.compile (.source (.fault ⟨1, .unmatchedRepeat⟩))) ∧
      LocatedFault.IsAbout ("unit mm\nrepeat 2:\nrepeat 1:\nend\nend".toList.splitOn '\n')
        ⟨1, .unmatchedRepeat⟩ := by
  have parsed : Program.ofSource "unit mm\nrepeat 2:\nrepeat 1:\nend\nend" =
      .ok [⟨.unit "mm", some 0⟩, ⟨.repeat 2, some 1⟩, ⟨.repeat 1, some 2⟩, ⟨.close, some 3⟩,
        ⟨.close, some 4⟩] := rfl
  have refused : Program.expand [⟨.unit "mm", some 0⟩, ⟨.repeat 2, some 1⟩, ⟨.repeat 1, some 2⟩,
      ⟨.close, some 3⟩, ⟨.close, some 4⟩] = .error ⟨1, .unmatchedRepeat⟩ := by
    iterate 7 refine (Program.Walk.run_next rfl).trans ?_
    exact Program.Walk.run_failed rfl
  have failed :
      (Compiler.handle ⟨.stock⟩ (.compile "unit mm\nrepeat 2:\nrepeat 1:\nend\nend")).1.outcome =
        .error (.compile (.source (.fault ⟨1, .unmatchedRepeat⟩))) := by
    simp only [handle, compile, parsed, refused]
    rfl
  exact ⟨failed, (fault_isAbout_line _ _ _ failed).2.2⟩

end Wireform
