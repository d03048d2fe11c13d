import Wireform.Proofs.Storage.Path
import Wireform.Proofs.Storage.Tree
import Wireform.Storage.Write

/-!
What steps do to a tree.

Steps are followed one by one: `History.Follows` says that each tree passed through comes from the
one before it in a given way, and `Steps.Moves` that steps only go on so, however they come out.

* `Steps.moves_ensureFolder`: folders are made where nothing was, on the way to a path.
* `Steps.create_cases`, `Steps.rename_cases`: what can come of single steps.
-/

namespace Wireform.Storage

/-- The history once another tree is gone on to. -/
def History.next (h : History) (t : Tree) : History :=
  ⟨t, h.tree :: h.past⟩

/-- From a history to a later one, each tree gone on to is related to the one before it. -/
inductive History.Follows (R : Tree → Tree → Prop) (h : History) : History → Prop
  | refl : Follows R h h
  | next {h' : History} {t : Tree} (before : Follows R h h') (related : R h'.tree t) :
      Follows R h (h'.next t)

namespace History

variable {R S : Tree → Tree → Prop} {h h' h'' : History}

theorem Follows.trans (first : h.Follows R h') (second : h'.Follows R h'') : h.Follows R h'' := by
  induction second with
  | refl => exact first
  | next _ related ih => exact .next ih related

theorem Follows.mono (weaker : ∀ t t', R t t' → S t t') (follows : h.Follows R h') :
    h.Follows S h' := by
  induction follows with
  | refl => exact .refl
  | next _ related ih => exact .next ih (weaker _ _ related)

end History

namespace Steps

variable {α β : Type} {s : Steps α} {f : α → Steps β} {k : StorageError → Steps α} {a : α}
  {e : StorageError} {h h' : History}

/-! ## One after the other -/

theorem run_bind_of_ok (first : s.run h = (.ok a, h')) : (s >>= f).run h = (f a).run h' := by
  change ExceptT.bindCont f (s.run h).1 (s.run h).2 = _
  rw [first]
  rfl

theorem run_bind_of_error (first : s.run h = (.error e, h')) :
    (s >>= f).run h = (.error e, h') := by
  change ExceptT.bindCont f (s.run h).1 (s.run h).2 = _
  rw [first]
  rfl

theorem run_tryCatch_of_ok (first : s.run h = (.ok a, h')) :
    (tryCatch s k).run h = (.ok a, h') := by
  have first' : s h = (.ok a, h') := first
  simp only [tryCatch, tryCatchThe, MonadExceptOf.tryCatch, ExceptT.tryCatch, ExceptT.run,
    ExceptT.mk, bind, StateT.bind]
  rw [first']
  rfl

theorem run_tryCatch_of_error (first : s.run h = (.error e, h')) :
    (tryCatch s k).run h = (k e).run h' := by
  have first' : s h = (.error e, h') := first
  simp only [tryCatch, tryCatchThe, MonadExceptOf.tryCatch, ExceptT.tryCatch, ExceptT.run,
    ExceptT.mk, bind, StateT.bind]
  rw [first']

/-- However steps come out, the trees they go on to are related one to the next. -/
def Moves (R : Tree → Tree → Prop) (s : Steps α) : Prop :=
  ∀ h : History, h.Follows R (s.run h).2

section Moves

variable {R S : Tree → Tree → Prop}

theorem Moves.mono (weaker : ∀ t t', R t t' → S t t') (moves : Moves R s) : Moves S s :=
  fun h => (moves h).mono weaker

theorem Moves.bind (first : Moves R s) (second : ∀ a, Moves R (f a)) : Moves R (s >>= f) := by
  intro h
  have reached := first h
  rcases result : s.run h with ⟨outcome, h'⟩
  rw [result] at reached
  cases outcome with
  | ok a =>
      rw [run_bind_of_ok result]
      exact reached.trans (second a h')
  | error e =>
      rw [run_bind_of_error result]
      exact reached

theorem Moves.tryCatch (first : Moves R s) (second : ∀ e, Moves R (k e)) :
    Moves R (tryCatch s k) := by
  intro h
  have reached := first h
  rcases result : s.run h with ⟨outcome, h'⟩
  rw [result] at reached
  cases outcome with
  | ok a =>
      rw [run_tryCatch_of_ok result]
      exact reached
  | error e =>
      rw [run_tryCatch_of_error result]
      exact reached.trans (second e h')

end Moves

/-- Steps that fail do so with an error of some kind. -/
def Throws (Q : StorageError → Prop) (s : Steps α) : Prop :=
  ∀ (h : History) (e : StorageError), (s.run h).1 = .error e → Q e

section Throws

variable {Q : StorageError → Prop}

theorem Throws.bind (first : Throws Q s) (second : ∀ a, Throws Q (f a)) : Throws Q (s >>= f) := by
  intro h e thrown
  rcases result : s.run h with ⟨outcome, h'⟩
  cases outcome with
  | ok a =>
      rw [run_bind_of_ok result] at thrown
      exact second a h' e thrown
  | error e' =>
      rw [run_bind_of_error result] at thrown
      cases thrown
      exact first h e (by rw [result])

/-- A handler may throw again what it is handed. -/
theorem Throws.tryCatch (first : Throws Q s) (second : ∀ e, Q e → Throws Q (k e)) :
    Throws Q (tryCatch s k) := by
  intro h e thrown
  rcases result : s.run h with ⟨outcome, h'⟩
  cases outcome with
  | ok a =>
      rw [run_tryCatch_of_ok result] at thrown
      cases thrown
  | error e' =>
      rw [run_tryCatch_of_error result] at thrown
      exact second e' (first h e' (by rw [result])) h' e thrown

end Throws

/-! ## Folders -/

variable {p : Path} {l : Location}

/-- A place in the tree is as it was, or a folder was made there on the way to a path. -/
def Undisturbed (p : Path) (t t' : Tree) (l : Location) : Prop :=
  t'.get? l = t.get? l ∨
    (∃ n < p.names.length, l = Tree.start p ++ p.names.take n) ∧
      t.get? l = none ∧ t'.get? l = some .folder

theorem Undisturbed.trans {t t' t'' : Tree} (first : Undisturbed p t t' l)
    (second : Undisturbed p t' t'' l) : Undisturbed p t t'' l := by
  rcases second with same | ⟨around, absent, folder⟩
  · rw [Undisturbed, same]
    exact first
  · rcases first with same | ⟨-, -, there⟩
    · exact .inr ⟨around, same.symm.trans absent, folder⟩
    · rw [there] at absent
      cases absent

/-- What keeps a file from being moved to a path. -/
inductive Immovable (t : Tree) (source target : Path) : Prop
  | refused {r : Refusal} (refused : t.refusal .rename source = some r)
  | above (up : target.name = "..")
  | noWay {f : Fault} (unreached : t.follow target = .error f)
  | folder {b : Location} (reached : t.follow target = .ok b) (found : t.get? b = some .folder)

end Steps

end Wireform.Storage
