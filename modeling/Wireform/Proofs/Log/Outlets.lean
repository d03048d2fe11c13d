import Wireform.Proofs.Log.Lines
import Wireform.Proofs.Refusal

/-!
The outlets of a log that is set up again and again.

Setting up a log makes the console an outlet before the file is opened, and only a call that gets to
its end is remembered. So a call that fails at its file leaves a console behind, and until some call
returns nothing clears it. `Calls` is the history of a process: calls one after the other, and
between them anything that leaves the outlets alone, such as records put into the log.

* `Call.goes`: the ways in which one call can go.
* `Calls.kept_eq`: what a history has left behind.
* `leftBehind_eq_nil_iff`: nothing is, exactly if some call returned or none failed at its file.
  Only then are the outlets after a call that returns the ones that it returned.
-/

namespace Wireform.Log

/-- A call that sets up the log: the world that it finds, and what is asked for. -/
structure Call where
  world : World
  setup : Setup

/-- The outlets that are still there once a call has begun. -/
def kept (l : Log) : List Handler :=
  if l.configured then [] else l.handlers

namespace Call

/-- The outlets that a call returns, or why it fails. -/
def result (c : Call) : Except SetupError (List Handler) :=
  (setUp c.world c.setup).1

/-- The world that a call leaves. -/
def after (c : Call) : World :=
  (setUp c.world c.setup).2

/-- The console as the call makes it an outlet. -/
def console (c : Call) : Handler :=
  consoleHandler c.world c.setup

/-- Does the call return? -/
def returns (c : Call) : Bool :=
  c.result.isOk

/-- Does the call fail at the file of the log? -/
def failsAtFile (c : Call) : Bool :=
  match c.result with
  | .error (.storage _) => true
  | _ => false

/-- The ways in which a call can go: its result, and the outlets and the mark that it leaves. -/
inductive Goes (c : Call) : Except SetupError (List Handler) → List Handler → Bool → Prop
  | toConsole (plain : c.setup.file = "") :
      Goes c (.ok [c.console]) (kept c.world.log ++ [c.console]) true
  | toFile (named : c.setup.file ≠ "") (number : Nat) :
      Goes c (.ok [c.console, fileHandler c.setup number])
        (kept c.world.log ++ [c.console, fileHandler c.setup number]) true
  | noLevel {e : SetupError} (early : ∀ cause, e ≠ .storage cause) :
      Goes c (.error e) (kept c.world.log) c.world.log.configured
  | noFile (cause : Storage.StorageError) :
      Goes c (.error (.storage cause)) (kept c.world.log ++ [c.console]) c.world.log.configured

end Call

theorem levelOf_ne_storage {name : String} {e : SetupError} (h : levelOf name = .error e)
    (cause : Storage.StorageError) : e ≠ .storage cause := by
  unfold levelOf at h
  split at h
  · cases h
  · cases h
    split
    · intro same
      cases same
    · split
      · intro same
        cases same
      · intro same
        cases same

/-- A call goes one of the four ways. -/
theorem Call.goes (c : Call) :
    c.Goes c.result c.after.log.handlers c.after.log.configured := by
  unfold Call.result Call.after
  simp only [setUp]
  split
  · next e unknown => exact .noLevel (levelOf_ne_storage unknown)
  · split
    · next plain => exact .toConsole (String.isEmpty_iff.1 plain)
    · next named =>
      have file : c.setup.file ≠ "" := fun empty => named (String.isEmpty_iff.2 empty)
      split
      · next cause tree opened => exact .noFile cause
      · next number tree opened =>
        have goes := Goes.toFile file number
        rw [List.append_cons] at goes
        exact goes

namespace Call

/-- A log stays set up in full, and a call that returns sets it up so. -/
theorem configured_after (c : Call) :
    c.after.log.configured = (c.world.log.configured || c.returns) := by
  have goes := c.goes
  unfold returns
  generalize c.result = result at goes ⊢
  generalize c.after.log.handlers = handlers at goes
  generalize c.after.log.configured = configured at goes ⊢
  cases goes with
  | toConsole | toFile => exact (Bool.or_true _).symm
  | noLevel | noFile => exact (Bool.or_false _).symm

/-- What a call leaves for the next one, if no call has returned. -/
theorem handlers_after (c : Call) (fresh : c.after.log.configured = false) :
    c.after.log.handlers = kept c.world.log ++ if c.failsAtFile then [c.console] else [] := by
  have goes := c.goes
  unfold failsAtFile
  generalize c.result = result at goes ⊢
  generalize c.after.log.handlers = handlers at goes ⊢
  generalize c.after.log.configured = configured at goes fresh
  cases goes with
  | toConsole | toFile => cases fresh
  | noFile => rfl
  | @noLevel e early =>
      cases e with
      | storage cause => exact absurd rfl (early cause)
      | _ => exact (List.append_nil _).symm

/-- The outlets that a call returns are added to those that it keeps: the console, and the file if
one is named. -/
theorem outlets_of_returned {c : Call} {handlers : List Handler}
    (returned : c.result = .ok handlers) :
    (c.setup.file = "" ∧ handlers = [c.console] ∨
      c.setup.file ≠ "" ∧ ∃ number, handlers = [c.console, fileHandler c.setup number]) ∧
    c.after.log.handlers = kept c.world.log ++ handlers := by
  have goes := c.goes
  rw [returned] at goes
  generalize c.after.log.handlers = outlets at goes ⊢
  generalize c.after.log.configured = configured at goes
  cases goes with
  | toConsole plain => exact ⟨.inl ⟨plain, rfl⟩, rfl⟩
  | toFile named number => exact ⟨.inr ⟨named, number, rfl⟩, rfl⟩

end Call

/-! ## Histories -/

/-- The two logs have the same outlets, and both were set up in full or neither. -/
def SameOutlets (l l' : Log) : Prop :=
  l'.handlers = l.handlers ∧ l'.configured = l.configured

/-- Lines of the log leave its outlets alone. -/
theorem sameOutlets_of_logged {w w' : World} (logged : w.Logged w') :
    SameOutlets w.log w'.log := by
  rw [logged.log]
  exact ⟨rfl, rfl⟩

/-- The calls of a process so far, oldest first, and the state of its log. At the start there are no
outlets. -/
inductive Calls : List Call → Log → Prop
  | start {l : Log} (none : l.handlers = []) (fresh : l.configured = false) : Calls [] l
  | call {earlier : List Call} {c : Call} (calls : Calls earlier c.world.log) :
      Calls (earlier ++ [c]) c.after.log
  | between {earlier : List Call} {l l' : Log} (calls : Calls earlier l) (same : SameOutlets l l') :
      Calls earlier l'

/-- The consoles that calls have left behind: one for each that failed at its file, until a call
returns. -/
def leftBehind (calls : List Call) : List Handler :=
  if calls.any Call.returns then [] else (calls.filter Call.failsAtFile).map Call.console

section History

variable {earlier : List Call} {l : Log}

theorem leftBehind_of_any (returned : earlier.any Call.returns = true) :
    leftBehind earlier = [] :=
  if_pos returned

theorem leftBehind_concat {c : Call} (none : (earlier ++ [c]).any Call.returns = false) :
    leftBehind (earlier ++ [c]) =
      leftBehind earlier ++ if c.failsAtFile then [c.console] else [] := by
  have before : earlier.any Call.returns = false := by
    rw [List.any_append, Bool.or_eq_false_iff] at none
    exact none.1
  rw [leftBehind, leftBehind, none, before, List.filter_append, List.map_append]
  cases fails : c.failsAtFile with
  | true => simp [fails]
  | false => simp [fails]

/-- A process remembers whether a call has returned. -/
theorem Calls.configured_eq (calls : Calls earlier l) :
    l.configured = earlier.any Call.returns := by
  induction calls with
  | start none fresh => exact fresh
  | @call earlier c _ ih =>
      rw [Call.configured_after, ih, List.any_append, List.any_cons, List.any_nil, Bool.or_false]
  | between _ same ih => exact same.2.trans ih

/-- What the next call does not clear is what the calls so far have left behind. -/
theorem Calls.kept_eq (calls : Calls earlier l) : kept l = leftBehind earlier := by
  induction calls with
  | start none fresh => rw [kept, none, ite_self]; rfl
  | @call earlier c calls ih =>
      have mark := calls.call.configured_eq
      rw [kept]
      cases configured : c.after.log.configured with
      | true =>
          rw [configured] at mark
          exact (leftBehind_of_any mark.symm).symm
      | false =>
          rw [configured] at mark
          rw [leftBehind_concat mark.symm, ← ih]
          exact c.handlers_after configured
  | between _ same ih => rw [kept, same.1, same.2]; exact ih

/-- Nothing is left behind exactly if a call has returned or none has failed at its file. -/
theorem leftBehind_eq_nil_iff :
    leftBehind earlier = [] ↔
      (∃ d ∈ earlier, d.returns = true) ∨ ∀ d ∈ earlier, d.failsAtFile = false := by
  rw [← List.any_eq_true, leftBehind]
  split
  · next returned => exact iff_of_true rfl (.inl returned)
  · next none => simp [none]

end History

/-- After a call that returns, the outlets are those that it returned, the console and the file if
one is named, behind the consoles that calls before it have left. They are just the ones that it
returned exactly if a call before it returned, or none of those failed at its file. -/
theorem handlers_of_returned {earlier : List Call} {c : Call} {handlers : List Handler}
    (calls : Calls earlier c.world.log) (returned : c.result = .ok handlers) :
    (c.setup.file = "" ∧ handlers = [c.console] ∨
      c.setup.file ≠ "" ∧ ∃ number, handlers = [c.console, fileHandler c.setup number]) ∧
    c.after.log.handlers = leftBehind earlier ++ handlers ∧
    (c.after.log.handlers = handlers ↔
      (∃ d ∈ earlier, d.returns = true) ∨ ∀ d ∈ earlier, d.failsAtFile = false) := by
  obtain ⟨shape, outlets⟩ := Call.outlets_of_returned returned
  rw [calls.kept_eq] at outlets
  refine ⟨shape, outlets, ?_⟩
  rw [outlets, List.append_left_eq_self, leftBehind_eq_nil_iff]

/-- A call, one that fails at its file, a record that warns of it, and a call that names another
file. -/
theorem handlers_of_returned_after_warning :
    let first : Call := ⟨{ home := "/", clock := .zero }, {}⟩
    let second : Call := ⟨first.after, { file := "." }⟩
    let warned := emit second.after
      { channel := Text.codePoints "bender", level := .warning,
        template := Text.codePoints "no log", created := .zero }
    let third : Call := ⟨warned, { file := "log/bends" }⟩
    Calls [first, second] third.world.log ∧ second.failsAtFile = true ∧
      ∃ handlers, third.result = .ok handlers ∧ third.after.log.handlers = handlers := by
  intro first second warned third
  have one : Calls [first] second.world.log := (Calls.start (l := first.world.log) rfl rfl).call
  have two : Calls [first, second] second.after.log := one.call
  have calls : Calls [first, second] third.world.log :=
    two.between (sameOutlets_of_logged (logged_emit second.after _))
  have fails : second.failsAtFile = true := by decide +kernel
  have returns : first.returns = true := by decide +kernel
  obtain ⟨handlers, returned⟩ := exists_of_isOk (show third.result.isOk = true by decide +kernel)
  exact ⟨calls, fails, handlers, returned,
    (handlers_of_returned calls returned).2.2.2 (.inl ⟨first, List.mem_cons_self, returns⟩)⟩

/-- A call that fails at its file and one that returns leave the console twice. -/
theorem handlers_doubled_after_failure :
    let first : Call := ⟨{ home := "/", clock := .zero }, { file := "." }⟩
    let second : Call := ⟨first.after, {}⟩
    Calls [first] second.world.log ∧ second.result = .ok [second.console] ∧
      second.after.log.handlers = [second.console, second.console] := by
  intro first second
  have calls : Calls [first] second.world.log := (Calls.start (l := first.world.log) rfl rfl).call
  obtain ⟨handlers, returned⟩ := exists_of_isOk (show second.result.isOk = true by decide +kernel)
  rcases (Call.outlets_of_returned returned).1 with ⟨-, rfl⟩ | ⟨named, -⟩
  · exact ⟨calls, returned, by decide +kernel⟩
  · exact absurd rfl named

end Wireform.Log
