import Mathlib.Data.List.Basic
import Wireform.Storage.Path

/-!
Names of paths, and the path beside a path.

The path that is used while a file is replaced has the suffix of the file with more behind it. That
is the name of the file with more behind it, whatever dots are in the name, so the two paths are
siblings and their texts differ at the end only.
-/

namespace Wireform.Storage.Path

variable {p q : Path} {s : String}

/-! ## Names -/

theorem names_eq_append (named : p.names ≠ []) : p.names = p.names.dropLast ++ [p.name] := by
  have last : p.name = p.names.getLast named := by
    rw [name, List.getLastD_eq_getLast?, List.getLast?_eq_some_getLast named, Option.getD_some]
  rw [last, List.dropLast_append_getLast]

/-- The path beside a path whose name has more at the end. -/
def beside (p : Path) (s : String) : Path :=
  { p with names := p.names.dropLast ++ [p.name ++ s] }

theorem mem_intercalate_iff {c : Char} (other : c ≠ '/') {names : List String} :
    c ∈ ("/".intercalate names).toList ↔ ∃ n ∈ names, c ∈ n.toList := by
  induction names with
  | nil => simp
  | cons n names ih =>
      by_cases none : names = []
      · simp [none]
      · rw [String.intercalate_cons_of_ne_nil none, String.toList_append, List.mem_append, ih]
        simp [other]

/-- The characters of a path other than slashes and dots are in its names. -/
theorem mem_text_iff {c : Char} (noSlash : c ≠ '/') (noDot : c ≠ '.') :
    c ∈ p.text.toList ↔ ∃ n ∈ p.names, c ∈ n.toList := by
  unfold text
  split
  · next dot =>
    simp [dot.2, noDot]
  · rw [String.toList_append, List.mem_append, mem_intercalate_iff noSlash]
    simp [noSlash]

theorem utf8ByteSize_intercalate_le (front : List String) (n : String) :
    ("/".intercalate front).utf8ByteSize ≤ ("/".intercalate (front ++ [n])).utf8ByteSize := by
  induction front with
  | nil => simp
  | cons m front ih =>
      have some : front ++ [n] ≠ [] := by simp
      rw [List.cons_append, String.intercalate_cons_of_ne_nil some]
      by_cases none : front = []
      · have alone : "/".intercalate (m :: front) = m := by simp [none]
        rw [alone, String.utf8ByteSize_append, String.utf8ByteSize_append]
        omega
      · rw [String.intercalate_cons_of_ne_nil none]
        simp only [String.utf8ByteSize_append]
        omega

theorem parent_of_names_eq_nil (none : p.names = []) : p.parent = p := by
  obtain ⟨slashes, names⟩ := p
  cases none
  rfl

/-- The path without its last name is no longer, but for the dot of the working folder. -/
theorem utf8ByteSize_text_parent_le (p : Path) :
    p.parent.text.utf8ByteSize ≤ max 1 p.text.utf8ByteSize := by
  by_cases named : p.names = []
  · rw [parent_of_names_eq_nil named]
    exact Nat.le_max_right _ _
  · have whole : p.text =
        String.ofList (List.replicate p.slashes '/') ++ "/".intercalate p.names :=
      if_neg fun none => named none.2
    rw [whole, text]
    split
    · exact Nat.le_max_left _ _
    · refine Nat.le_trans ?_ (Nat.le_max_right _ _)
      have shorter := utf8ByteSize_intercalate_le p.names.dropLast p.name
      rw [← names_eq_append named] at shorter
      simp only [String.utf8ByteSize_append, parent]
      omega

end Wireform.Storage.Path
