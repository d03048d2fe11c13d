import Wireform.Proofs.Program.Source

/-!
Texts below each other.

Each line of a program text is read by itself, and its number is only noted: on the instruction, or
on the refusal. So a text below another one is read as it would be alone, with its line numbers as
much larger as there are lines above it.

* `ofLines_append`: lines below other lines.
* `ofLines_further`: lines that are numbered from further down.
-/

namespace Wireform

/-- The instruction on a line so much further down. -/
def Instruction.further (n : Nat) (i : Instruction) : Instruction :=
  { i with line := i.line.map (· + n) }

/-- The refusal of a text that starts so much further down. That a count is too long is said without
a line. -/
def SourceError.further (n : Nat) : SourceError → SourceError
  | .fault e => .fault { e with line := e.line + n }
  | .countTooLong digits => .countTooLong digits

theorem Instruction.ofLine_further (raw : List Char) (line : Int) (n : Nat) :
    ofLine raw (line + n) =
      ((ofLine raw line).map (Instruction.further n)).mapError (SourceError.further n) := by
  simp only [ofLine]
  cases Statement.recognise (Text.lower (Text.strip raw)) with
  | none => rfl
  | some found =>
      cases found with
      | ok command => rfl
      | error digits => rfl

namespace Program

/-- The program of a text that starts so much further down. -/
def further (n : Nat) (p : Program) : Program :=
  p.map (Instruction.further n)

/-- Lines below other lines are read once those are. -/
theorem ofLines_append (line : Nat) (above below : List (List Char)) :
    ofLines line (above ++ below) = do
      let p ← ofLines line above
      let q ← ofLines (line + above.length) below
      return p ++ q := by
  induction above generalizing line with
  | nil =>
      simp only [List.nil_append, List.length_nil, Nat.add_zero, ofLines]
      cases ofLines line below <;> rfl
  | cons l above ih =>
      have numbered : line + 1 + above.length = line + (l :: above).length := by
        rw [List.length_cons]
        omega
      rw [List.cons_append, ofLines, ofLines, ih, numbered]
      cases Instruction.ofLine l line with
      | error e => rfl
      | ok i =>
          cases ofLines (line + 1) above with
          | error e => rfl
          | ok p => cases ofLines (line + (l :: above).length) below <;> rfl

theorem ofLines_further (line n : Nat) (ls : List (List Char)) :
    ofLines (line + n) ls =
      ((ofLines line ls).map (further n)).mapError (SourceError.further n) := by
  induction ls generalizing line with
  | nil => rfl
  | cons l ls ih =>
      rw [ofLines, ofLines, Int.natCast_add, Instruction.ofLine_further, Nat.add_right_comm, ih]
      cases Instruction.ofLine l line with
      | error e => rfl
      | ok i => cases ofLines (line + 1) ls <;> rfl

theorem linesOf_append (a b : List Char) : linesOf (a ++ '\n' :: b) = linesOf a ++ linesOf b := by
  simp only [linesOf_eq_splitOn, List.splitOn_append_cons_self]

/-- A text below another one, read after it. -/
theorem ofSource_below (a b : String) :
    ofSource (a ++ "\n" ++ b) = do
      let p ← ofSource a
      let q ← ((ofSource b).map (further (a.toList.splitOn '\n').length)).mapError
        (SourceError.further (a.toList.splitOn '\n').length)
      return p ++ q := by
  have lines : linesOf (a ++ "\n" ++ b).toList = linesOf a.toList ++ linesOf b.toList := by
    rw [String.toList_append, String.toList_append, List.append_assoc]
    exact linesOf_append a.toList b.toList
  have shifted := ofLines_further 0 (linesOf a.toList).length (linesOf b.toList)
  rw [Nat.zero_add] at shifted
  rw [← linesOf_eq_splitOn, ofSource, lines, ofLines_append, Nat.zero_add, shifted]
  rfl

/-- Two texts with a line end between them. If the first is refused, so are the two, in the same
words. Else, if the second is refused, so are the two, on a line that is as much further down as the
first text has lines; and if neither is, the program of the first stands in front of that of the
second, whose lines are as much further down. A text that is read has one instruction for each line,
and the instruction notes the number of its line. -/
theorem ofSource_append (a b : String) :
    (∀ e, ofSource a = .error e → ofSource (a ++ "\n" ++ b) = .error e) ∧
    (∀ p e, ofSource a = .ok p → ofSource b = .error e →
      ofSource (a ++ "\n" ++ b) = .error (e.further (a.toList.splitOn '\n').length)) ∧
    (∀ p q, ofSource a = .ok p → ofSource b = .ok q →
      ofSource (a ++ "\n" ++ b) = .ok (p ++ q.further (a.toList.splitOn '\n').length)) ∧
    ∀ text p, ofSource text = .ok p →
      p.length = (text.toList.splitOn '\n').length ∧
      ∀ (k : Nat) (i : Instruction), p[k]? = some i → i.line = some (k : Int) ∧
        ∃ l, (text.toList.splitOn '\n')[k]? = some l ∧ Instruction.ofLine l k = .ok i := by
  have both := ofSource_below a b
  refine ⟨?_, ?_, ?_, ?_⟩
  · intro e refused
    rw [both, refused]
    rfl
  · intro p e read refused
    rw [both, read, refused]
    rfl
  · intro p q read read'
    rw [both, read, read']
    rfl
  · intro text p read
    rw [ofSource, linesOf_eq_splitOn] at read
    obtain ⟨size, each⟩ := ofLines_eq_ok read
    refine ⟨size, fun k i there => ?_⟩
    have inside : k < (text.toList.splitOn '\n').length :=
      size ▸ (List.getElem?_eq_some_iff.1 there).1
    have line := List.getElem?_eq_getElem inside
    obtain ⟨j, found, parsed⟩ := each k _ line
    obtain rfl : j = i := Option.some.inj (found.symm.trans there)
    rw [Nat.zero_add] at parsed
    exact ⟨Instruction.line_of_ofLine parsed, _, line, parsed⟩

/-- A text that ends in a line end has an empty line below it, so the next text starts on its third
line. -/
theorem ofSource_append_below_empty_line :
    ofSource ("unit mm\n" ++ "\n" ++ "end\nunit") =
        .error (.fault ⟨3, .unrecognised "unit"⟩) ∧
      ofSource ("unit mm\n" ++ "\n" ++ "end") =
        .ok [⟨.unit "mm", some 0⟩, ⟨.comment, some 1⟩, ⟨.close, some 2⟩] ∧
      ofSource ("unit" ++ "\n" ++ "end") = .error (.fault ⟨0, .unrecognised "unit"⟩) := by
  have above : ofSource "unit mm\n" = .ok [⟨.unit "mm", some 0⟩, ⟨.comment, some 1⟩] := rfl
  have lines : ("unit mm\n".toList.splitOn '\n').length = 2 := by
    rw [← linesOf_eq_splitOn]
    rfl
  refine ⟨?_, ?_, ?_⟩
  · have joined := (ofSource_append "unit mm\n" "end\nunit").2.1 _
      (.fault ⟨1, .unrecognised "unit"⟩) above rfl
    rw [lines] at joined
    exact joined
  · have joined := (ofSource_append "unit mm\n" "end").2.2.1 _ [⟨.close, some 0⟩] above rfl
    rw [lines] at joined
    exact joined
  · exact (ofSource_append "unit" "end").1 _ rfl

end Program

end Wireform
