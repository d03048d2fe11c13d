import Mathlib.Data.List.Forall2
import Wireform.Command.Run
import Wireform.Proofs.Program.Source

/-!
Spellings of a program.

The blanks around a line and the case of its letters make no difference to what it says. So two
texts that agree line by line but for these are read as the same program, or are refused on the same
line for the same reason; the wording may differ, since it quotes the line. A carriage return in
front of a line feed is one of the blanks around a line. So it makes no difference, not even to the
wording, whether line ends are made alike before a text is compiled.

* `lower_strip_of_respelled`: what is left of a line to be recognised.
* `ofLine_of_respelled`, `ofLines_of_respelled`: one line, and all of them.
* `ofSource_normaliseLineEnds`: texts with their line ends made alike.
-/

namespace Wireform

namespace Text

/-! ## Blanks and letters -/

theorem trim_append {p : Char → Bool} {lead trail : List Char} (mid : List Char)
    (before : ∀ c ∈ lead, p c = true) (behind : ∀ c ∈ trail, p c = true) :
    trim p (lead ++ mid ++ trail) = trim p mid := by
  rw [trim, trim, List.append_assoc, List.dropWhile_append_of_pos before, List.dropWhile_append]
  split
  · next empty =>
    have gone : trail.dropWhile p = [] := by
      rw [← List.append_nil trail, List.dropWhile_append_of_pos behind, List.dropWhile_nil]
    rw [gone, List.isEmpty_iff.1 empty]
  · have gone : ∀ c ∈ trail.reverse, p c = true := fun c mem => behind c (List.mem_reverse.1 mem)
    rw [List.reverse_append, List.dropWhile_append_of_pos gone]

theorem trim_map (p : Char → Bool) (f : Char → Char) (s : List Char) :
    trim p (s.map f) = (trim (p ∘ f) s).map f := by
  simp only [trim, List.dropWhile_map, ← List.map_reverse]

/-- A character is its own small letter, or it is one of the capital letters of ASCII. -/
@[elab_as_elim]
theorem toLower_cases {motive : Char → Prop} (other : ∀ c, c.toLower = c → motive c)
    (capital : ∀ n < 26, motive (Char.ofNat (65 + n))) (c : Char) : motive c := by
  by_cases within : c.val ≥ 'A'.val ∧ c.val ≤ 'Z'.val
  · have first : 65 ≤ c.toNat := UInt32.le_iff_toNat_le.1 within.1
    have last : c.toNat ≤ 90 := UInt32.le_iff_toNat_le.1 within.2
    have letter := capital (c.toNat - 65) (by omega)
    rwa [Nat.add_sub_of_le first, Char.ofNat_toNat] at letter
  · exact other c (dif_neg within)

theorem lowerChar_toLower (c : Char) : lowerChar c.toLower = lowerChar c := by
  induction c using toLower_cases with
  | other c same => rw [same]
  | capital n small =>
      revert n
      decide

theorem isBlank_toLower (c : Char) : isBlank c.toLower = isBlank c := by
  induction c using toLower_cases with
  | other c same => rw [same]
  | capital n small =>
      revert n
      decide

/-- Changing the case of ASCII letters changes no blank, so it can be done before or after. -/
theorem strip_map_toLower (s : List Char) :
    strip (s.map Char.toLower) = (strip s).map Char.toLower := by
  have same : isBlank ∘ Char.toLower = isBlank := funext isBlank_toLower
  rw [strip, strip, trim_map, same]

theorem lower_map_toLower (s : List Char) : lower (s.map Char.toLower) = lower s := by
  rw [lower, lower, List.flatMap_map]
  simp only [lowerChar_toLower]

/-- Each carriage return stands right in front of a line feed. -/
def ReturnsPaired (s : List Char) : Prop :=
  ∀ n, s[n]? = some '\r' → s[n + 1]? = some '\n'

theorem ReturnsPaired.tail {c : Char} {s : List Char} (paired : ReturnsPaired (c :: s)) :
    ReturnsPaired s :=
  fun n => paired (n + 1)

end Text

/-- The line is another one with other blanks around it and ASCII letters in another case. -/
def Respelled (l l' : List Char) : Prop :=
  ∃ lead mid trail lead' mid' trail', l = lead ++ mid ++ trail ∧ l' = lead' ++ mid' ++ trail' ∧
    (∀ c ∈ lead ++ trail ++ lead' ++ trail', Text.isBlank c = true) ∧
    mid.map Char.toLower = mid'.map Char.toLower

section Line

variable {l l' : List Char}

theorem lower_strip_of_respelled (h : Respelled l l') :
    Text.lower (Text.strip l) = Text.lower (Text.strip l') := by
  obtain ⟨lead, mid, trail, lead', mid', trail', rfl, rfl, blank, same⟩ := h
  simp only [List.forall_mem_append] at blank
  obtain ⟨⟨⟨before, behind⟩, before'⟩, behind'⟩ := blank
  have stripped : Text.strip (lead ++ mid ++ trail) = Text.strip mid :=
    Text.trim_append mid before behind
  have stripped' : Text.strip (lead' ++ mid' ++ trail') = Text.strip mid' :=
    Text.trim_append mid' before' behind'
  rw [stripped, stripped', ← Text.lower_map_toLower, ← Text.strip_map_toLower, same,
    Text.strip_map_toLower, Text.lower_map_toLower]

/-- Two refusals of a line, for the same reason. -/
inductive SourceError.Alike (line : Int) : SourceError → SourceError → Prop
  | unrecognised (text text' : String) :
      Alike line (.fault ⟨line, .unrecognised text⟩) (.fault ⟨line, .unrecognised text'⟩)
  | countTooLong (digits : Nat) : Alike line (.countTooLong digits) (.countTooLong digits)

theorem Instruction.ofLine_of_respelled (h : Respelled l l') (line : Int) :
    (∃ i, ofLine l line = .ok i ∧ ofLine l' line = .ok i) ∨
      ∃ e e', e.Alike line e' ∧ ofLine l line = .error e ∧ ofLine l' line = .error e' := by
  simp only [ofLine, lower_strip_of_respelled h]
  cases Statement.recognise (Text.lower (Text.strip l')) with
  | none => exact .inr ⟨_, _, .unrecognised _ _, rfl, rfl⟩
  | some found =>
      cases found with
      | ok command => exact .inl ⟨_, rfl, rfl⟩
      | error digits => exact .inr ⟨_, _, .countTooLong digits, rfl, rfl⟩

theorem Instruction.ofLine_of_strip_eq (h : Text.strip l = Text.strip l') (line : Int) :
    ofLine l line = ofLine l' line := by
  simp only [ofLine, h]

end Line

namespace Program

variable {line : Nat} {ls ls' : List (List Char)}

/-- Of the lines numbered from `line` on, line `n` is the first one that is refused. -/
inductive RefusedAt : Nat → List (List Char) → Nat → SourceError → Prop
  | here {line : Nat} {l : List Char} {ls : List (List Char)} {e : SourceError}
      (refused : Instruction.ofLine l line = .error e) : RefusedAt line (l :: ls) line e
  | later {line n : Nat} {l : List Char} {ls : List (List Char)} {i : Instruction}
      {e : SourceError} (read : Instruction.ofLine l line = .ok i)
      (next : RefusedAt (line + 1) ls n e) : RefusedAt line (l :: ls) n e

theorem RefusedAt.ofLines_eq {n : Nat} {e : SourceError} (h : RefusedAt line ls n e) :
    ofLines line ls = .error e := by
  induction h with
  | here refused => simp only [ofLines, refused]
  | later read _ ih => simp only [ofLines, read, ih]

/-- Lines that are respelled one by one are read as the same program, or refused on the same line
for the same reason. -/
theorem ofLines_of_respelled (h : List.Forall₂ Respelled ls ls') (line : Nat) :
    (∃ p, ofLines line ls = .ok p ∧ ofLines line ls' = .ok p) ∨
      ∃ (n : Nat) (e e' : SourceError), e.Alike n e' ∧
        RefusedAt line ls n e ∧ RefusedAt line ls' n e' := by
  induction h generalizing line with
  | nil => exact .inl ⟨[], rfl, rfl⟩
  | cons first _ ih =>
      rcases Instruction.ofLine_of_respelled first line with
        ⟨i, read, read'⟩ | ⟨e, e', alike, refused, refused'⟩
      · rcases ih (line + 1) with ⟨p, rest, rest'⟩ | ⟨n, e, e', alike, rest, rest'⟩
        · refine .inl ⟨i :: p, ?_, ?_⟩
          · simp only [ofLines, read, rest]
          · simp only [ofLines, read', rest']
        · exact .inr ⟨n, e, e', alike, .later read rest, .later read' rest'⟩
      · exact .inr ⟨line, e, e', alike, .here refused, .here refused'⟩

theorem ofLines_of_strip_eq (h : List.Forall₂ (fun l l' => Text.strip l = Text.strip l') ls ls')
    (line : Nat) : ofLines line ls = ofLines line ls' := by
  induction h generalizing line with
  | nil => rfl
  | cons first _ ih => rw [ofLines, ofLines, Instruction.ofLine_of_strip_eq first, ih]

/-! ## Line ends -/

theorem linesOf_ne_nil (s : List Char) : linesOf s ≠ [] := by
  rw [linesOf_eq_splitOn]
  exact List.splitOnP_ne_nil _ s

theorem linesOf_cons {c : Char} (other : c ≠ '\n') {s l : List Char} {rest : List (List Char)}
    (h : linesOf s = l :: rest) : linesOf (c :: s) = (c :: l) :: rest := by
  simp only [linesOf, List.foldr_cons] at h ⊢
  rw [h, if_neg other]

/-- With the line ends of a text made alike, its lines are the same but for a carriage return behind
them. -/
theorem lines_normaliseLineEnds {s : List Char} (paired : Text.ReturnsPaired s) :
    List.Forall₂ (fun l l' => l' = l ∨ l' = l ++ ['\r'])
      (linesOf (Text.normaliseLineEnds s)) (linesOf s) := by
  induction s using Text.normaliseLineEnds.induct with
  | case1 rest ih =>
      have first : linesOf ('\r' :: '\n' :: rest) = ['\r'] :: linesOf rest := rfl
      rw [first]
      exact .cons (.inr rfl) (ih paired.tail.tail)
  | case2 rest lone ih =>
      -- A carriage return that stands alone is excluded.
      have next : rest[0]? = some '\n' := paired 0 rfl
      cases rest with
      | nil => cases next
      | cons d rest =>
          cases next
          exact absurd rfl (lone rest)
  | case3 c rest pair single ih =>
      have same : Text.normaliseLineEnds (c :: rest) = c :: Text.normaliseLineEnds rest := by
        rw [Text.normaliseLineEnds]
        · exact pair
        · exact single
      have lines := ih paired.tail
      rw [same]
      by_cases newline : c = '\n'
      · subst newline
        exact .cons (.inl rfl) lines
      · obtain ⟨l, ls, front⟩ :=
          List.exists_cons_of_ne_nil (linesOf_ne_nil (Text.normaliseLineEnds rest))
        obtain ⟨l', ls', back⟩ := List.exists_cons_of_ne_nil (linesOf_ne_nil rest)
        rw [front, back, List.forall₂_cons] at lines
        rw [linesOf_cons newline front, linesOf_cons newline back]
        refine .cons ?_ lines.2
        rcases lines.1 with rfl | rfl
        · exact .inl rfl
        · exact .inr rfl
  | case4 => exact .cons (.inl rfl) .nil

/-- A text with its line ends made alike is the same program, or is refused in the same words. -/
theorem ofSource_normaliseLineEnds {s : List Char} (paired : Text.ReturnsPaired s) :
    ofSource (String.ofList (Text.normaliseLineEnds s)) = ofSource (String.ofList s) := by
  rw [ofSource, ofSource, String.toList_ofList, String.toList_ofList]
  refine ofLines_of_strip_eq ((lines_normaliseLineEnds paired).imp fun l l' same => ?_) 0
  rcases same with rfl | rfl
  · rfl
  · have before : ∀ c ∈ ([] : List Char), Text.isBlank c = true := List.forall_mem_nil _
    have behind : ∀ c ∈ ['\r'], Text.isBlank c = true := List.all_eq_true.1 rfl
    exact (Text.trim_append l before behind).symm

end Program

/-! ## Compiling -/

/-- Line by line, the text is another one respelled. -/
def SameSpelling (text text' : String) : Prop :=
  List.Forall₂ Respelled (text.toList.splitOn '\n') (text'.toList.splitOn '\n')

theorem compile_of_ofSource_eq {text text' : String}
    (h : Program.ofSource text = Program.ofSource text') (c : Settings) :
    compile c text = compile c text' := by
  simp only [compile, h]

theorem outcome_of_ofSource_eq_error {text : String} {e : SourceError}
    (h : Program.ofSource text = .error e) (c : Settings) :
    (compile c text).outcome = .error (.source e) := by
  simp only [compile, h]

theorem Command.readProgram_of_decode {w : World} {input : String} {stdin bytes : List UInt8}
    {raw : List Char} (source : sourceBytes w input stdin = .ok bytes)
    (decoded : Text.decode bytes = .ok raw) :
    readProgram w input stdin = (.ok (String.ofList (Text.normaliseLineEnds raw)), w) := by
  simp only [readProgram, source, textOfBytes, decoded]
  rfl

/-- Spelling makes no difference. Of two texts that agree line by line, but for the case of ASCII
letters and for blanks around the lines, each is read as the same program, with the same line
numbers, or both are refused on the same line for the same reason; so the G-code is the same. And a
text in which carriage returns only stand in front of line feeds compiles to the same, whether its
line ends are made alike, as a run of the command does on reading it, or not. -/
theorem compile_of_spelling :
    (∀ text text' : String, SameSpelling text text' →
      ((∃ p, Program.ofSource text = .ok p ∧ Program.ofSource text' = .ok p) ∨
        ∃ (n : Nat) (e e' : SourceError), e.Alike n e' ∧
          (Program.ofSource text = .error e ∧
            Program.RefusedAt 0 (text.toList.splitOn '\n') n e) ∧
          (Program.ofSource text' = .error e' ∧
            Program.RefusedAt 0 (text'.toList.splitOn '\n') n e')) ∧
      ∀ c gcode, (compile c text).outcome = .ok gcode ↔ (compile c text').outcome = .ok gcode) ∧
    ∀ raw : List Char, Text.ReturnsPaired raw →
      (∀ c, compile c (String.ofList (Text.normaliseLineEnds raw)) =
        compile c (String.ofList raw)) ∧
      ∀ w input stdin bytes, Command.sourceBytes w input stdin = .ok bytes →
        Text.decode bytes = .ok raw →
          Command.readProgram w input stdin =
            (.ok (String.ofList (Text.normaliseLineEnds raw)), w) := by
  refine ⟨fun text text' same => ?_, fun raw paired => ⟨fun c => ?_, ?_⟩⟩
  · have reading := Program.ofLines_of_respelled same 0
    rw [← Program.linesOf_eq_splitOn, ← Program.linesOf_eq_splitOn] at reading ⊢
    rcases reading with ⟨p, read, read'⟩ | ⟨n, e, e', alike, refused, refused'⟩
    · refine ⟨.inl ⟨p, read, read'⟩, fun c gcode => ?_⟩
      rw [compile_of_ofSource_eq (read.trans read'.symm) c]
    · have failed : Program.ofSource text = .error e := refused.ofLines_eq
      have failed' : Program.ofSource text' = .error e' := refused'.ofLines_eq
      refine ⟨.inr ⟨n, e, e', alike, ⟨failed, refused⟩, ⟨failed', refused'⟩⟩, fun c gcode => ?_⟩
      rw [outcome_of_ofSource_eq_error failed, outcome_of_ofSource_eq_error failed']
      constructor
      · intro h
        cases h
      · intro h
        cases h
  · exact compile_of_ofSource_eq (Program.ofSource_normaliseLineEnds paired) c
  · intro w input stdin bytes source decoded
    exact Command.readProgram_of_decode source decoded

/-- Blanks of any kind may stand around a line, and the text may come in with carriage returns. -/
theorem compile_of_spelling_mixed :
    SameSpelling "feed 1\nunit mm" "\u00a0Feed 1\r\nUNIT mm\t" ∧
      (∀ c gcode, (compile c "feed 1\nunit mm").outcome = .ok gcode ↔
        (compile c "\u00a0Feed 1\r\nUNIT mm\t").outcome = .ok gcode) ∧
      Text.ReturnsPaired ['E', 'n', 'd', '\r', '\n'] ∧
      (∀ c, compile c (String.ofList ['E', 'n', 'd', '\n']) =
        compile c (String.ofList ['E', 'n', 'd', '\r', '\n'])) ∧
      ∀ w, Command.readProgram w "-" [69, 110, 100, 13, 10] =
        (.ok (String.ofList ['E', 'n', 'd', '\n']), w) := by
  have lines : "feed 1\nunit mm".toList.splitOn '\n' =
      [['f', 'e', 'e', 'd', ' ', '1'], ['u', 'n', 'i', 't', ' ', 'm', 'm']] := by
    rw [← Program.linesOf_eq_splitOn]
    rfl
  have lines' : "\u00a0Feed 1\r\nUNIT mm\t".toList.splitOn '\n' =
      [['\u00a0', 'F', 'e', 'e', 'd', ' ', '1', '\r'],
        ['U', 'N', 'I', 'T', ' ', 'm', 'm', '\t']] := by
    rw [← Program.linesOf_eq_splitOn]
    rfl
  have same : SameSpelling "feed 1\nunit mm" "\u00a0Feed 1\r\nUNIT mm\t" := by
    rw [SameSpelling, lines, lines']
    refine .cons ?_ (.cons ?_ .nil)
    · exact ⟨[], ['f', 'e', 'e', 'd', ' ', '1'], [], ['\u00a0'], ['F', 'e', 'e', 'd', ' ', '1'],
        ['\r'], rfl, rfl, List.all_eq_true.1 rfl, by decide⟩
    · exact ⟨[], ['u', 'n', 'i', 't', ' ', 'm', 'm'], [], [], ['U', 'N', 'I', 'T', ' ', 'm', 'm'],
        ['\t'], rfl, rfl, List.all_eq_true.1 rfl, by decide⟩
  have paired : Text.ReturnsPaired ['E', 'n', 'd', '\r', '\n'] := by
    intro n found
    rcases n with _ | _ | _ | _ | _ | n <;> first | rfl | cases found
  obtain ⟨compiled, read⟩ := compile_of_spelling.2 _ paired
  exact ⟨same, (compile_of_spelling.1 _ _ same).2, paired, compiled,
    fun w => read w "-" _ _ rfl rfl⟩

end Wireform
