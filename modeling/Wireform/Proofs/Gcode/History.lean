import Mathlib.Data.List.DropRight
import Wireform.Proofs.Gcode.Continuation

/-!
What a machine has said and what it knows.

A machine can be told to raise and lower the pin, to start and to finish a program and to carry out
instructions, in any order, and may refuse. Its history lists what it was told, each time with the
lines it wrote. What the machine knows of itself can be read off its history: starting a program
wipes all that came before it, and of what came since, the last remark on the pin and the last bend
count.

* `raisedBy_act`, `angle_act`: what one action changes, going by what the history says of it.
* `Follows.act`, `Follows.after`: a machine that agrees with its history does so behind one action,
  and behind any number of them.
-/

namespace Wireform.Gcode

/-! ## Remarks on the pin -/

/-- Is the line a remark on the pin? -/
def saysPin (text : String) : Bool :=
  text = "(Duck)" || text = "(Unduck)"

/-- The last remark on the pin. -/
def lastOfPin (texts : List String) : Option String :=
  (texts.filter saysPin).getLast?

/-- Is the pin raised behind some lines, going by the last remark on it? -/
def raisedBy (texts : List String) (before : Bool) : Bool :=
  ((lastOfPin texts).map (· == "(Duck)")).getD before

theorem raisedBy_append (first second : List String) (before : Bool) :
    raisedBy (first ++ second) before = raisedBy second (raisedBy first before) := by
  unfold raisedBy lastOfPin
  rw [List.filter_append, List.getLast?_append]
  cases (second.filter saysPin).getLast? <;> rfl

/-- If the pin is lowered at first, it is raised in the end if that is what was said last. -/
theorem raisedBy_eq_true_iff {texts : List String} :
    raisedBy texts false = true ↔ lastOfPin texts = some "(Duck)" := by
  unfold raisedBy
  cases lastOfPin texts <;> simp

theorem saysPin_text_iff {l : Line} :
    saysPin l.text = true ↔ l = .remark .duck ∨ l = .remark .unduck := by
  have duck : l.text = "(Duck)" ↔ l = .remark .duck :=
    Line.text_eq_iff (m := .remark .duck) Line.eq_of_word_duck
  have unduck : l.text = "(Unduck)" ↔ l = .remark .unduck :=
    Line.text_eq_iff (m := .remark .unduck) Line.eq_of_word_unduck
  rw [saysPin, Bool.or_eq_true, decide_eq_true_iff, decide_eq_true_iff, duck, unduck]

/-- Lines without a remark on the pin leave it as it is. -/
theorem raisedBy_of_still (lines : List Line)
    (still : ∀ l ∈ lines, l ≠ .remark .duck ∧ l ≠ .remark .unduck) (before : Bool) :
    raisedBy (lines.map Line.text) before = before := by
  have none : (lines.map Line.text).filter saysPin = [] := by
    rw [List.filter_eq_nil_iff]
    intro text mem remark
    obtain ⟨l, member, rfl⟩ := List.mem_map.1 mem
    rcases saysPin_text_iff.1 remark with duck | unduck
    · exact (still l member).1 duck
    · exact (still l member).2 unduck
  rw [raisedBy, lastOfPin, none]
  rfl

/-- A move of the pin with the remark on it. -/
theorem raisedBy_pin {text : String} (remark : saysPin text = true) (z : Binary64) (before : Bool) :
    raisedBy [text, (Line.pin z).text] before = (text == "(Duck)") := by
  have said : raisedBy [text] before = (text == "(Duck)") := by
    rw [raisedBy, lastOfPin, List.filter_cons_of_pos remark]
    rfl
  have moved := raisedBy_of_still [.pin z] (by simp) (raisedBy [text] before)
  rw [← said, ← moved, ← raisedBy_append]
  rfl

namespace Machine

/-! ## Histories -/

/-- Is a program started? -/
def Action.isStart : Action → Bool
  | .start => true
  | _ => false

/-- What a machine was told to do, and what became of it. -/
structure Entry where
  action : Action
  outcome : Except Unsupported Block

/-- The lines that were written. -/
def Entry.texts (e : Entry) : List String :=
  match e.outcome with
  | .ok block => block.lines.map Line.text
  | .error _ => []

/-- The instruction that was to be carried out, if it was one. -/
def Entry.instruction? (e : Entry) : Option Instruction :=
  match e.action with
  | .perform i => some i
  | _ => none

section History

variable (c : Settings) (m : Machine)

/-- What a machine makes of an action. -/
def entry (a : Action) : Entry :=
  ⟨a, (m.act c a).1⟩

/-- The machine behind some actions. -/
def after (m : Machine) : List Action → Machine
  | [] => m
  | a :: rest => after (m.act c a).2 rest

/-- What a machine makes of some actions, one after the other. -/
def history (m : Machine) : List Action → List Entry
  | [] => []
  | a :: rest => m.entry c a :: history (m.act c a).2 rest

/-- What came since a program was last started, or from the beginning. -/
def sinceStart (past : List Entry) : List Entry :=
  past.rtakeWhile fun e => !e.action.isStart

/-- A machine that agrees with a history. -/
structure Follows (past : List Entry) : Prop where
  /-- The pin is raised if that is the last that was said of it. -/
  pin : m.ducked = true ↔ lastOfPin ((sinceStart past).flatMap Entry.texts) = some "(Duck)"
  /-- The angle is that of the last bend, and zero without one. -/
  angle : m.angle = Program.lastAngle ((sinceStart past).filterMap Entry.instruction?)

theorem sinceStart_concat_start (past : List Entry) :
    sinceStart (past ++ [m.entry c .start]) = [] :=
  List.rtakeWhile_concat_neg _ _ _ (by simp [entry, Action.isStart])

theorem sinceStart_concat {a : Action} (goesOn : a.isStart = false) (past : List Entry) :
    sinceStart (past ++ [m.entry c a]) = sinceStart past ++ [m.entry c a] :=
  List.rtakeWhile_concat_pos _ _ _ (by simp [entry, goesOn])

end History

/-! ## The pin -/

section Pin

variable (c : Settings) (m : Machine)

theorem raisedBy_duck (force : Bool) :
    raisedBy ((m.duck c force).1.map Line.text) m.ducked = (m.duck c force).2.ducked := by
  unfold duck
  split
  · rfl
  · exact raisedBy_pin rfl c.pinRaised m.ducked

theorem raisedBy_unduck (force : Bool) :
    raisedBy ((m.unduck c force).1.map Line.text) m.ducked = (m.unduck c force).2.ducked := by
  unfold unduck
  split
  · rfl
  · exact raisedBy_pin rfl c.pinLowered m.ducked

theorem ducked_unduck (force : Bool) : (m.unduck c force).2.ducked = false := by
  unfold unduck
  split
  · next down => simpa using (Bool.and_eq_true_iff.1 down).1
  · rfl

/-- Whether or not the pin is raised when the side has to change, it is lowered afterwards. -/
theorem ducked_bendBlock {angle : Binary64} (crosses : Side.of m.angle ≠ Side.of angle)
    (line : Option Int) : (bendBlock c m angle line).2 = false := by
  rw [bendBlock, if_neg crosses]
  exact ducked_unduck c (m.duck c false).2 false

theorem raisedBy_bendBlock (angle : Binary64) (line : Option Int) :
    raisedBy ((bendBlock c m angle line).1.lines.map Line.text) m.ducked =
      (bendBlock c m angle line).2 := by
  unfold bendBlock
  split
  · exact raisedBy_of_still _ (by simp) m.ducked
  · have cleared := raisedBy_of_still
      [.remark (.clear (Side.of angle)), .travel (c.clearanceFor angle)] (by simp)
    have bent := raisedBy_of_still [.bend angle c.bendRate] (by simp)
    simp only [List.map_append, raisedBy_append, raisedBy_duck, cleared, raisedBy_unduck, bent]

end Pin

/-! ## One action -/

section Action

variable (c : Settings) (m : Machine) {a : Action}

/-- Behind an action the pin is as the lines of the action say. -/
theorem raisedBy_act (goesOn : a.isStart = false) :
    raisedBy (m.entry c a).texts m.ducked = (m.act c a).2.ducked := by
  cases a with
  | duck force => exact raisedBy_duck c m force
  | unduck force => exact raisedBy_unduck c m force
  | start => cases goesOn
  | finish => rfl
  | perform i =>
      obtain ⟨command, line⟩ := i
      cases command with
      | unit code =>
          refine raisedBy_of_still (unitBlock code line).lines ?_ m.ducked
          unfold unitBlock
          split <;> simp
      | feed length => exact raisedBy_of_still (feedBlock c m length).lines (by simp [feedBlock]) _
      | bend angle => exact raisedBy_bendBlock c m angle line
      | _ => rfl

/-- Behind an action the angle is the one it bends to, if it bends. -/
theorem angle_act (goesOn : a.isStart = false) :
    (m.act c a).2.angle = Program.lastAngle (m.entry c a).instruction?.toList m.angle := by
  cases a with
  | duck force =>
      change (m.duck c force).2.angle = m.angle
      unfold duck
      split <;> rfl
  | unduck force =>
      change (m.unduck c force).2.angle = m.angle
      unfold unduck
      split <;> rfl
  | start => cases goesOn
  | finish => rfl
  | perform i =>
      obtain ⟨command, line⟩ := i
      cases command <;> rfl

/-- What is refused changes nothing. -/
theorem act_of_error {e : Unsupported} (refused : (m.act c a).1 = .error e) :
    (m.act c a).2 = m := by
  cases a with
  | perform i =>
      cases emitted : m.emit c i with
      | ok r => simp [act, emitted] at refused
      | error _ => simp only [act, emitted]
  | _ => cases refused

/-- The pin is moved without being forced exactly if it is not yet where it shall be. -/
theorem texts_unforced (unforced : a = .duck false ∨ a = .unduck false) :
    (m.entry c a).texts ≠ [] ↔ (m.act c a).2.ducked ≠ m.ducked := by
  obtain ⟨angle, ducked⟩ := m
  rcases unforced with rfl | rfl
  · cases ducked <;> simp [entry, act, duck, Entry.texts]
  · cases ducked <;> simp [entry, act, unduck, Entry.texts]

end Action

/-! ## All actions -/

section Follows

variable {m : Machine} {past : List Entry}

theorem follows_initial (fresh : sinceStart past = []) : initial.Follows past := by
  constructor
  · rw [fresh]
    decide
  · rw [fresh]
    rfl

theorem Follows.ducked_eq (follows : m.Follows past) :
    m.ducked = raisedBy ((sinceStart past).flatMap Entry.texts) false := by
  rw [Bool.eq_iff_iff, raisedBy_eq_true_iff]
  exact follows.pin

/-- A machine that agrees with what came before does so behind one action more. -/
theorem Follows.act (follows : m.Follows past) (c : Settings) (a : Action) :
    (m.act c a).2.Follows (past ++ [m.entry c a]) := by
  by_cases start : a = .start
  · subst start
    exact follows_initial (sinceStart_concat_start c m past)
  · have goesOn : a.isStart = false := by
      cases a with
      | start => exact absurd rfl start
      | _ => rfl
    have longer := sinceStart_concat c m goesOn past
    constructor
    · rw [longer, ← raisedBy_eq_true_iff, List.flatMap_append, raisedBy_append, ← follows.ducked_eq,
        List.flatMap_singleton, raisedBy_act c m goesOn]
    · rw [longer, List.filterMap_append, Program.lastAngle_append, ← follows.angle,
        angle_act c m goesOn]
      rfl

theorem Follows.after (follows : m.Follows past) (c : Settings) (actions : List Action) :
    (m.after c actions).Follows (past ++ m.history c actions) := by
  induction actions generalizing m past with
  | nil =>
      rw [history, List.append_nil]
      exact follows
  | cons a actions ih =>
      rw [history, List.append_cons]
      exact ih (follows.act c a)

end Follows

/-- Whatever a new machine is told, what it knows agrees with what was said since a program was last
started. What it refuses changes nothing; the pin is moved without being forced exactly if it is not
yet where it shall be; and a bend to the other side leaves it lowered, raised or not before. -/
theorem follows_history (c : Settings) :
    (∀ actions, (initial.after c actions).Follows (initial.history c actions)) ∧
    ∀ m : Machine,
      (∀ a e, (m.act c a).1 = .error e → (m.act c a).2 = m) ∧
      (∀ a, a = .duck false ∨ a = .unduck false →
        ((m.entry c a).texts ≠ [] ↔ (m.act c a).2.ducked ≠ m.ducked)) ∧
      ∀ angle line, Side.of m.angle ≠ Side.of angle →
        (m.act c (.perform ⟨.bend angle, line⟩)).2.ducked = false := by
  refine ⟨?_, fun m => ⟨?_, ?_, ?_⟩⟩
  · intro actions
    have fresh : initial.Follows [] := follows_initial rfl
    exact fresh.after c actions
  · intro a e refused
    exact act_of_error c m refused
  · intro a unforced
    exact texts_unforced c m unforced
  · intro angle line crosses
    exact ducked_bendBlock c m crosses line

/-- A bend to the other side is met with the pin raised and lowers it. An instruction is refused,
and the pin raised again; there is no need to raise it once more. -/
theorem follows_history_raised :
    (initial.after .stock [.duck true, .perform ⟨.bend (.ofInt 90), none⟩,
        .perform ⟨.close, none⟩, .duck false] = ⟨.ofInt 90, true⟩ ∧
      lastOfPin ((sinceStart (initial.history .stock [.duck true,
        .perform ⟨.bend (.ofInt 90), none⟩, .perform ⟨.close, none⟩,
        .duck false])).flatMap Entry.texts) = some "(Duck)") ∧
    (Side.of Binary64.zero ≠ Side.of (.ofInt 90) ∧
      (act .stock ⟨.zero, true⟩ (.perform ⟨.bend (.ofInt 90), none⟩)).2.ducked = false) ∧
    ((act .stock ⟨.ofInt 90, false⟩ (.perform ⟨.close, none⟩)).1 = .error ⟨.close, none⟩ ∧
      (act .stock ⟨.ofInt 90, false⟩ (.perform ⟨.close, none⟩)).2 = ⟨.ofInt 90, false⟩) ∧
    (entry .stock ⟨.ofInt 90, true⟩ (.duck false)).texts = [] := by
  obtain ⟨runs, each⟩ := follows_history .stock
  refine ⟨?_, ?_, ?_, ?_⟩
  · have ends : initial.after .stock [.duck true, .perform ⟨.bend (.ofInt 90), none⟩,
        .perform ⟨.close, none⟩, .duck false] = ⟨.ofInt 90, true⟩ := by
      decide +kernel
    have follows := runs [.duck true, .perform ⟨.bend (.ofInt 90), none⟩,
      .perform ⟨.close, none⟩, .duck false]
    rw [ends] at follows
    exact ⟨ends, follows.pin.1 rfl⟩
  · have crosses : Side.of Binary64.zero ≠ Side.of (.ofInt 90) := by decide +kernel
    exact ⟨crosses, (each ⟨.zero, true⟩).2.2 _ none crosses⟩
  · exact ⟨rfl, (each ⟨.ofInt 90, false⟩).1 _ _ rfl⟩
  · have flips := (each ⟨.ofInt 90, true⟩).2.1 (.duck false) (.inl rfl)
    exact not_not.1 fun lines => flips.1 lines rfl

end Machine

end Wireform.Gcode
