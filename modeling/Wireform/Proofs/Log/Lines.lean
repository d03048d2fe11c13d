import Wireform.Log.Basic
import Wireform.Proofs.Storage.Tree

/-!
What lines of the log change.

A line goes to the console or to the end of a file. So a world with more lines in its log has the
same log and the same output, and its tree differs in the contents of files at most; not even in
those if all lines go to the console.
-/

namespace Wireform

/-- All lines of the log go to the console. -/
def World.ToConsole (w : World) : Prop :=
  ∀ h ∈ w.log.handlers, h.outlet = .console

/-- The one world is the other with more lines in its log. -/
structure World.Logged (w w' : World) : Prop where
  home : w'.home = w.home
  log : w'.log = w.log
  output : w'.output = w.output
  alike : w.tree.Alike w'.tree
  tree : w.ToConsole → w'.tree = w.tree

namespace World

variable {w w' w'' : World}

theorem Logged.refl (w : World) : w.Logged w where
  home := rfl
  log := rfl
  output := rfl
  alike := .refl w.tree
  tree := fun _ => rfl

theorem Logged.toConsole (logged : w.Logged w') (console : w.ToConsole) : w'.ToConsole := by
  unfold ToConsole
  rw [logged.log]
  exact console

theorem Logged.trans (first : w.Logged w') (second : w'.Logged w'') : w.Logged w'' where
  home := second.home.trans first.home
  log := second.log.trans first.log
  output := second.output.trans first.output
  alike := first.alike.trans second.alike
  tree := by
    intro console
    rw [second.tree (first.toConsole console), first.tree console]

end World

namespace Log

variable {w : World}

theorem logged_write_console (w : World) (line : List Text.CodePoint) :
    w.Logged (write w .console line) where
  home := rfl
  log := rfl
  output := rfl
  alike := .refl w.tree
  tree := fun _ => rfl

theorem logged_write_file {h : Handler} {number : Nat} (mem : h ∈ w.log.handlers)
    (outlet : h.outlet = .file number) (line : List Text.CodePoint) :
    w.Logged (write w (.file number) line) := by
  unfold write
  cases Text.ofCodePoints? line with
  | none => exact .refl w
  | some s =>
      refine ⟨rfl, rfl, rfl, Storage.Tree.alike_append _ _ _, ?_⟩
      intro console
      have impossible := console h mem
      rw [outlet] at impossible
      cases impossible

theorem logged_deliver (r : Record) {h : Handler} (mem : h ∈ w.log.handlers) :
    w.Logged (deliver r w h) := by
  unfold deliver
  split
  · next line _ =>
    cases outlet : h.outlet with
    | console => exact logged_write_console w line
    | file number => exact logged_write_file mem outlet line
  · exact .refl w

theorem logged_deliverAll (r : Record) {handlers : List Handler}
    (inside : ∀ h ∈ handlers, h ∈ w.log.handlers) :
    w.Logged (handlers.foldl (deliver r) w) := by
  induction handlers generalizing w with
  | nil => exact .refl w
  | cons h handlers ih =>
      rw [List.forall_mem_cons] at inside
      have first : w.Logged (deliver r w h) := logged_deliver r inside.1
      refine first.trans (ih ?_)
      rw [first.log]
      exact inside.2

theorem logged_emit (w : World) (r : Record) : w.Logged (emit w r) := by
  unfold emit
  split
  · exact .refl w
  · split
    · split
      · split
        · exact logged_write_console w _
        · exact .refl w
      · exact .refl w
    · exact logged_deliverAll _ fun _ mem => mem

end Log

end Wireform
