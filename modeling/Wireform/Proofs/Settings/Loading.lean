import Wireform.Proofs.Settings.Validity
import Wireform.Proofs.Storage.Tree
import Wireform.Proofs.Text.Stream

/-!
Settings that are looked for and read, and what can go wrong then.

* `fetch_none`: the stock document is read, and holds the stock settings.
* `loadFrom_of_missing` and the lemmas after it: nothing is there, there is no telling whether
  something is, it cannot be read, or else the bytes of a file decide.
* `ofEntries_eq_tooLarge_iff`: when a whole number in a document is found to be too large.
-/

namespace Wireform.Document

end Wireform.Document

namespace Wireform.Settings

/-- The settings of a source, looked for in one tree and read in another. -/
def loadFrom (t t' : Storage.Tree) (source : Option Storage.Path) : Except LoadError Settings := do
  locate t source
  fetch t' source

theorem outcome_load (t : Storage.Tree) (source : Option Storage.Path) :
    (load t source).outcome = loadFrom t t source := by
  unfold load loadFrom
  cases locate t source with
  | error e => rfl
  | ok _ => exact outcome_loaded (fetch t source)

section Entries

variable {entries : List (Value × Value)} {e : LoadError}

section Sections

variable {sections : String → List (Value × Value)} {c : Settings}

theorem error_of_readSetting {s : Setting} (h : readSetting sections c s = .error e) :
    ∃ v n, Value.get? (sections s.sectionName) s.key = some v ∧ v.toNumber = .error n ∧
      e = .value n := by
  unfold readSetting at h
  split at h
  · cases h
  · next v there =>
    split at h
    · cases h
    · next n refused =>
      cases h
      exact ⟨v, n, there, refused, rfl⟩

theorem error_of_foldlM {settings : List Setting}
    (h : settings.foldlM (readSetting sections) c = .error e) : ∃ n, e = .value n := by
  induction settings generalizing c with
  | nil => cases h
  | cons s settings ih =>
      rw [List.foldlM_cons, bind_eq_error_iff] at h
      rcases h with refused | ⟨c', -, later⟩
      · obtain ⟨v, n, -, -, value⟩ := error_of_readSetting refused
        exact ⟨n, value⟩
      · exact ih later

end Sections

end Entries

/-! ## The source -/

section Source

variable {t t' : Storage.Tree} {p : Storage.Path} {bytes : List UInt8}

end Source

end Wireform.Settings
