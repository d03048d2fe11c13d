import Wireform.Gcode.Line
import Wireform.Proofs.Binary64.Plain

/-!
G-code as a controller reads it.

A controller knows nothing of how lines are put together: `Word.read` takes the text of a line and
says what it asks for, numbers staying texts. `Word.read_text` says that each line is read as what
it was written for. A controller that keeps a state while it reads line after line is a function
from state and word to state; `trace` lists the words with the state in which each is met, and
`stateAfter` is the state in the end.
-/

namespace Wireform.Gcode

/-- What a controller takes a line for. -/
inductive Word where
  | blank
  /-- A remark that says nothing of the pin. -/
  | remark
  /-- The remark that the pin is about to be raised. -/
  | duck
  /-- The remark that the pin is about to be lowered. -/
  | unduck
  | units (u : LengthUnit)
  | absolute
  | relative
  /-- Go somewhere on an axis without working. -/
  | rapid (axis : Char) (target : String)
  /-- Go somewhere on an axis at a rate, which comes with its letter. -/
  | move (axis : Char) (target rate : String)
  | unknown
  deriving DecidableEq

/-- Reads the characters of a line. The rate of a move starts with the first `F`. -/
def Word.ofChars : List Char → Word
  | [] => .blank
  | ['(', 'D', 'u', 'c', 'k', ')'] => .duck
  | ['(', 'U', 'n', 'd', 'u', 'c', 'k', ')'] => .unduck
  | '(' :: _ => .remark
  | ['G', '2', '0'] => .units .inch
  | ['G', '2', '1'] => .units .millimeter
  | ['G', '9', '0'] => .absolute
  | ['G', '9', '1'] => .relative
  | 'G' :: '0' :: axis :: target => .rapid axis (String.ofList target)
  | 'G' :: '1' :: axis :: rest =>
    .move axis (String.ofList (rest.takeWhile (· != 'F')))
      (String.ofList (rest.dropWhile (· != 'F')))
  | _ => .unknown

/-- Reads a line. -/
def Word.read (line : String) : Word :=
  .ofChars line.toList

/-- What a line is written for. -/
def Line.word : Line → Word
  | .blank => .blank
  | .remark .duck => .duck
  | .remark .unduck => .unduck
  | .remark _ => .remark
  | .units u => .units u
  | .absolute => .absolute
  | .relative => .relative
  | .travel x => .rapid 'X' (coordinate x)
  | .pin z => .rapid 'Z' z.compact
  | .feed y r => .move 'Y' (coordinate y) (rate r)
  | .bend x r => .move 'X' (coordinate x) (rate r)

/-! ## Reading what was written -/

theorem Word.ofChars_move (axis : Char) (x r : Binary64) :
    Word.ofChars ('G' :: '1' :: axis :: ((coordinate x).toList ++ (rate r).toList)) =
      .move axis (coordinate x) (rate r) := by
  have digits : ∀ c ∈ (coordinate x).toList, (c != 'F') = true := by
    intro c mem
    rw [bne_iff_ne]
    rintro rfl
    exact Binary64.not_mem_fixed rfl 5 _ mem
  have letter : (rate r).toList = 'F' :: (r.fixed 3).toList := by simp [rate]
  change Word.move axis (String.ofList (List.takeWhile _ _))
    (String.ofList (List.dropWhile _ _)) = _
  rw [List.takeWhile_append_of_pos digits, List.dropWhile_append_of_pos digits, letter,
    List.takeWhile_cons_of_neg (by decide), List.dropWhile_cons_of_neg (by decide), ← letter,
    List.append_nil, String.ofList_toList, String.ofList_toList]

theorem Word.ofChars_remark {first : Char} {rest : List Char} (notDuck : first ≠ 'D')
    (notUnduck : first ≠ 'U') : Word.ofChars ('(' :: first :: rest) = .remark := by
  simp [Word.ofChars, notDuck, notUnduck]

/-- The letter that a remark starts with. -/
def Remark.initial : Remark → Char
  | .title | .bend _ => 'B'
  | .origin => 'G'
  | .absoluteMode => 'A'
  | .unitChange _ | .clear _ => 'C'
  | .unknownUnit _ => 'W'
  | .feed _ => 'F'
  | .duck => 'D'
  | .unduck => 'U'

theorem Remark.head?_text (r : Remark) : r.text.toList.head? = some r.initial := by
  have starts (first : Char) (letters : List Char) (s s' : String) :
      (String.ofList (first :: letters) ++ s ++ s').toList.head? = some first := by simp
  cases r with
  | unitChange u => cases u <;> decide +kernel
  | unknownUnit code => exact starts 'W' _ code _
  | feed length =>
      have text := starts 'F' "eed ".toList (length.unsignedZero.fixed 3) ""
      rwa [String.append_empty] at text
  | clear side => exact starts 'C' _ side.word _
  | bend angle => exact starts 'B' _ angle.compact _
  | _ => decide +kernel

theorem Word.read_remark (r : Remark) : Word.read (Line.remark r).text = (Line.remark r).word := by
  by_cases duck : r = .duck
  · subst duck
    rfl
  by_cases unduck : r = .unduck
  · subst unduck
    rfl
  -- Remarks that do not speak of the pin start with other letters than those that do.
  have plain : (Line.remark r).word = .remark ∧ r.initial ≠ 'D' ∧ r.initial ≠ 'U' := by
    cases r with
    | duck => exact absurd rfl duck
    | unduck => exact absurd rfl unduck
    | _ => exact ⟨rfl, by simp [Remark.initial]⟩
  obtain ⟨word, notDuck, notUnduck⟩ := plain
  obtain ⟨rest, text⟩ := List.head?_eq_some_iff.1 r.head?_text
  rw [word, Word.read, Line.text, String.toList_append, String.toList_append, text]
  exact Word.ofChars_remark notDuck notUnduck

/-- Each line is read as what it was written for. -/
theorem Word.read_text (l : Line) : Word.read l.text = l.word := by
  cases l with
  | blank => rfl
  | remark r => exact Word.read_remark r
  | units u => cases u <;> rfl
  | absolute => rfl
  | relative => rfl
  | travel x =>
      rw [Word.read, Line.text, String.toList_append]
      change Word.rapid 'X' (String.ofList (coordinate x).toList) = _
      rw [String.ofList_toList, Line.word]
  | pin z =>
      rw [Word.read, Line.text, String.toList_append]
      change Word.rapid 'Z' (String.ofList z.compact.toList) = _
      rw [String.ofList_toList, Line.word]
  | feed y r =>
      rw [Word.read, Line.text, String.toList_append, String.toList_append, List.append_assoc]
      exact Word.ofChars_move 'Y' y r
  | bend x r =>
      rw [Word.read, Line.text, String.toList_append, String.toList_append, List.append_assoc]
      exact Word.ofChars_move 'X' x r

/-- A line that no other line is read as has a text of its own. -/
theorem Line.text_eq_iff {l m : Line} (alone : ∀ {l : Line}, l.word = m.word → l = m) :
    l.text = m.text ↔ l = m := by
  refine ⟨fun text => alone ?_, fun same => same ▸ rfl⟩
  rw [← Word.read_text l, text, Word.read_text m]

theorem Line.eq_of_word_blank {l : Line} (h : l.word = .blank) : l = .blank := by
  cases l with
  | blank => rfl
  | remark r => cases r <;> cases h
  | _ => cases h

theorem Line.eq_of_word_duck {l : Line} (h : l.word = .duck) : l = .remark .duck := by
  cases l with
  | remark r => cases r <;> first | rfl | cases h
  | _ => cases h

theorem Line.eq_of_word_unduck {l : Line} (h : l.word = .unduck) : l = .remark .unduck := by
  cases l with
  | remark r => cases r <;> first | rfl | cases h
  | _ => cases h

/-- Such a text stands among the texts of lines as often as the line stands among the lines. -/
theorem count_text {m : Line} (alone : ∀ {l : Line}, l.word = m.word → l = m)
    (lines : List Line) : (lines.map Line.text).count m.text = lines.count m := by
  rw [List.count, List.countP_map, List.count]
  refine List.countP_congr fun l _ => ?_
  simp only [Function.comp_apply, beq_iff_eq]
  exact Line.text_eq_iff alone

/-! ## Reading line after line -/

section Trace

variable {σ : Type} (next : σ → Word → σ)

/-- The words of some lines, each with the state in which it is met. -/
def trace (s : σ) : List String → List (σ × Word)
  | [] => []
  | line :: rest => (s, .read line) :: trace (next s (.read line)) rest

/-- The state behind some lines. -/
def stateAfter (s : σ) : List String → σ
  | [] => s
  | line :: rest => stateAfter (next s (.read line)) rest

theorem trace_append (s : σ) (first second : List String) :
    trace next s (first ++ second) =
      trace next s first ++ trace next (stateAfter next s first) second := by
  induction first generalizing s with
  | nil => rfl
  | cons line rest ih => simp [trace, stateAfter, ih]

theorem stateAfter_append (s : σ) (first second : List String) :
    stateAfter next s (first ++ second) = stateAfter next (stateAfter next s first) second := by
  induction first generalizing s with
  | nil => rfl
  | cons line rest ih => exact ih _

variable {next} {home : σ} {blocks : List (List String)}

/-- Blocks with an empty line behind each, all of which start and end in one state: so do they one
after the other. -/
theorem stateAfter_blocks (blank : next home .blank = home)
    (back : ∀ block ∈ blocks, stateAfter next home block = home) :
    stateAfter next home (blocks.flatMap (· ++ [""])) = home := by
  induction blocks with
  | nil => rfl
  | cons block blocks ih =>
      rw [List.forall_mem_cons] at back
      rw [List.flatMap_cons, stateAfter_append, stateAfter_append, back.1]
      exact (congrArg (stateAfter next · _) blank).trans (ih back.2)

/-- What then holds of all that is met in each block, and of an empty line, holds of all that is met
in the blocks one after the other. -/
theorem forall_mem_trace_blocks {P : σ × Word → Prop} (blank : next home .blank = home)
    (empty : P (home, .blank))
    (back : ∀ block ∈ blocks, stateAfter next home block = home)
    (each : ∀ block ∈ blocks, ∀ x ∈ trace next home block, P x) :
    ∀ x ∈ trace next home (blocks.flatMap (· ++ [""])), P x := by
  induction blocks with
  | nil => simp [trace]
  | cons block blocks ih =>
      rw [List.forall_mem_cons] at back each
      have behind : stateAfter next home (block ++ [""]) = home := by
        rw [stateAfter_append, back.1]
        exact blank
      intro x mem
      rw [List.flatMap_cons, trace_append, behind, trace_append, back.1, List.mem_append,
        List.mem_append] at mem
      rcases mem with (mem | mem) | mem
      · exact each.1 x mem
      · obtain rfl := List.mem_singleton.1 mem
        exact empty
      · exact ih back.2 each.2 x mem

end Trace

end Wireform.Gcode
