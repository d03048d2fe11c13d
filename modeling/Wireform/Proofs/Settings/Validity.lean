import Wireform.Proofs.Refusal
import Wireform.Settings.Document

/-!
Settings stay valid.

Settings come out of three places: replacing some of them by name, reading them from a document,
and a compiler that has been asked to replace its own. Each ends in the same check, so whatever
comes out is valid; and a compiler that was made at all has valid settings however it is used.

* `validate_eq_ok_iff`: the check passes valid settings on and nothing else.
* `valid_of_override`, `valid_of_load`: what comes out of the first two places.
* `Compiler.valid_handle`: one request keeps the settings valid.
-/

namespace Wireform

theorem Binary64.isAtMostZero_of_isFinite {x : Binary64} (finite : x.isFinite = true) :
    x.isAtMostZero = !x.isPositive := by
  cases x with
  | nan => cases finite
  | infinite negative => cases finite
  | finite negative units representable =>
      cases negative <;> simp [isAtMostZero, isPositive, bne]

theorem Setting.mem_all (s : Setting) : s ∈ all := by
  cases s <;> decide

namespace Settings

variable {c c' : Settings} {o : Overrides}

/-! ## The check -/

theorem find?_not_finite_eq_none_iff :
    (Setting.all.find? fun s => !(c.get s).isFinite) = none ↔ ∀ s, (c.get s).isFinite = true := by
  rw [List.find?_eq_none]
  constructor
  · intro none s
    have finite := none s s.mem_all
    simpa using finite
  · intro finite s _
    simp [finite s]

theorem firstError?_eq_none_iff : c.firstError? = none ↔ c.Valid := by
  unfold firstError? Valid
  cases found : Setting.all.find? fun s => !(c.get s).isFinite with
  | some s =>
      -- The setting that was found is not finite, so neither side holds.
      have bad := List.find?_some found
      refine iff_of_false (by simp) fun valid => ?_
      rw [valid.1 s] at bad
      cases bad
  | none =>
      have finite := find?_not_finite_eq_none_iff.1 found
      have feed : c.feedRate.isAtMostZero = !c.feedRate.isPositive :=
        Binary64.isAtMostZero_of_isFinite (finite .feedRate)
      have bend : c.bendRate.isAtMostZero = !c.bendRate.isPositive :=
        Binary64.isAtMostZero_of_isFinite (finite .bendRate)
      rw [feed, bend]
      cases c.feedRate.isPositive <;> cases c.bendRate.isPositive <;> simp [finite]

theorem valid_stock : stock.Valid :=
  firstError?_eq_none_iff.1 (by decide +kernel)

theorem validate_eq_ok_iff : c.validate = .ok c' ↔ c' = c ∧ c.Valid := by
  rw [← firstError?_eq_none_iff]
  unfold validate
  cases c.firstError? with
  | none => simp [eq_comm]
  | some e => simp

theorem validate_eq_error_iff : (∃ e, c.validate = .error e) ↔ ¬ c.Valid := by
  rw [← firstError?_eq_none_iff]
  unfold validate
  cases c.firstError? with
  | none => simp
  | some e => simp

theorem valid_of_validate (h : c.validate = .ok c') : c'.Valid := by
  obtain ⟨rfl, valid⟩ := validate_eq_ok_iff.1 h
  exact valid

/-! ## Where settings come from -/

theorem valid_of_override (h : c.override o = .ok c') : c'.Valid := by
  unfold override at h
  split at h
  · cases h
  · split at h
    · split at h
      · cases h
      · exact valid_of_validate h
    · cases h

theorem valid_of_ofEntries {entries : List (Value × Value)} (h : ofEntries entries = .ok c) :
    c.Valid := by
  unfold ofEntries at h
  obtain ⟨feeds, -, h⟩ := bind_eq_ok_iff.1 h
  obtain ⟨clearances, -, h⟩ := bind_eq_ok_iff.1 h
  obtain ⟨duck, -, h⟩ := bind_eq_ok_iff.1 h
  obtain ⟨read, -, h⟩ := bind_eq_ok_iff.1 h
  exact valid_of_validate (mapError_eq_ok_iff.1 h)

theorem valid_of_ofValue {path : String} {v : Value} (h : ofValue path v = .ok c) : c.Valid := by
  unfold ofValue at h
  split at h
  · cases h
  · exact valid_of_ofEntries h
  · cases h

theorem valid_of_fetch {t : Storage.Tree} {source : Option Storage.Path}
    (h : fetch t source = .ok c) : c.Valid := by
  cases source with
  | none =>
      rw [fetch, ofBytes] at h
      obtain ⟨v, -, h⟩ := bind_eq_ok_iff.1 h
      exact valid_of_ofValue h
  | some p =>
      rw [fetch, ofFile] at h
      obtain ⟨v, -, h⟩ := bind_eq_ok_iff.1 h
      exact valid_of_ofValue h

theorem outcome_loaded (outcome : Except LoadError Settings) :
    (loaded outcome).outcome = outcome := by
  cases outcome <;> rfl

theorem valid_of_load {t : Storage.Tree} {source : Option Storage.Path}
    (h : (load t source).outcome = .ok c) : c.Valid := by
  unfold load at h
  split at h
  · cases h
  · exact valid_of_fetch ((outcome_loaded _).symm.trans h)

end Settings

namespace Compiler

variable {c : Settings} {o : Settings.Overrides} {k k' : Compiler} {r : Request}

/-- The compiler once requests have been dealt with in order, whatever came of them. -/
def after (k : Compiler) (requests : List Request) : Compiler :=
  requests.foldl (fun k r => (k.handle r).2) k

theorem valid_of_create (h : create c o = .ok k) : k.settings.Valid := by
  unfold create at h
  split at h
  · cases h
  · split at h
    · next settings replaced =>
      cases h
      exact Settings.valid_of_override replaced
    · cases h

theorem valid_of_setOptions (h : k.setOptions o = .ok k') : k'.settings.Valid := by
  unfold setOptions at h
  split at h
  · cases h
  · split at h
    · next settings replaced =>
      cases h
      exact Settings.valid_of_override replaced
    · cases h

/-- Only options that are accepted make another compiler. -/
theorem handle_cases (k : Compiler) (r : Request) :
    (k.handle r).2 = k ∨ ∃ o k' answer, r = .setOptions o ∧ k.setOptions o = .ok k' ∧
      k.handle r = (⟨k'.settings.notices, .ok answer⟩, k') := by
  cases r with
  | setOptions o =>
      cases set : k.setOptions o with
      | error e =>
          left
          simp only [handle, set]
      | ok k' =>
          right
          refine ⟨o, k', .settings k'.settings, rfl, set, ?_⟩
          simp only [handle, set]
  | compile text => exact .inl rfl
  | parse text => exact .inl rfl
  | expand p => exact .inl rfl
  | generate p => exact .inl rfl

theorem valid_handle (valid : k.settings.Valid) (r : Request) : (k.handle r).2.settings.Valid := by
  rcases handle_cases k r with same | ⟨o, k', answer, -, set, handled⟩
  · rw [same]
    exact valid
  · rw [handled]
    exact valid_of_setOptions set

theorem valid_after (valid : k.settings.Valid) (requests : List Request) :
    (k.after requests).settings.Valid := by
  induction requests generalizing k with
  | nil => exact valid
  | cons r requests ih => exact ih (valid_handle valid r)

theorem handle_of_error {e : Refusal} (h : (k.handle r).1.outcome = .error e) :
    (k.handle r).2 = k := by
  rcases handle_cases k r with same | ⟨o, k', answer, -, -, handled⟩
  · exact same
  · rw [handled] at h
    cases h

theorem handle_of_ne_setOptions (other : ∀ o, r ≠ .setOptions o) : (k.handle r).2 = k := by
  rcases handle_cases k r with same | ⟨o, k', answer, options, -, -⟩
  · exact same
  · exact absurd options (other o)

/-- Whatever settings a compiler is made from and whatever it is asked to do, its settings are valid
from when it is made; a request that is refused leaves them as they were, and so does any request
but one to replace them. Settings that are read or replaced are valid, and the check refuses just
those that are not. -/
theorem settings_valid_throughout (c : Settings) (o : Settings.Overrides) :
    (∀ k, create c o = .ok k → ∀ requests, (k.after requests).settings.Valid) ∧
    (∀ (k : Compiler) (r : Request) (e : Refusal),
      (k.handle r).1.outcome = .error e → (k.handle r).2 = k) ∧
    (∀ (k : Compiler) (r : Request), (∀ o', r ≠ .setOptions o') → (k.handle r).2 = k) ∧
    (∀ (t : Storage.Tree) (source : Option Storage.Path) (c' : Settings),
      (Settings.load t source).outcome = .ok c' → c'.Valid) ∧
    (∀ c', c.override o = .ok c' → c'.Valid) ∧
    ((∃ e, c.validate = .error e) ↔ ¬ c.Valid) := by
  refine ⟨?_, ?_, ?_, ?_, ?_, Settings.validate_eq_error_iff⟩
  · intro k created requests
    exact valid_after (valid_of_create created) requests
  · intro k r e refused
    exact handle_of_error refused
  · intro k r other
    exact handle_of_ne_setOptions other
  · intro t source c' loaded
    exact Settings.valid_of_load loaded
  · intro c' replaced
    exact Settings.valid_of_override replaced

/-- Settings with a rate that is no number are not valid, but a compiler is made from them with
another rate, and keeps to it when it is asked for a rate of zero. -/
theorem settings_valid_throughout_mended :
    ¬ ({ Settings.stock with feedRate := .nan } : Settings).Valid ∧
      ∃ k, create { Settings.stock with feedRate := .nan } [("feed_feedrate", .int 90)] = .ok k ∧
        (k.after [.setOptions [("bend_feedrate", .int 0)], .compile "feed 1"]).settings.Valid := by
  have result := settings_valid_throughout { Settings.stock with feedRate := .nan }
    [("feed_feedrate", .int 90)]
  refine ⟨fun valid => absurd (valid.1 .feedRate) (by decide), ?_⟩
  have accepted : (create { Settings.stock with feedRate := .nan }
      [("feed_feedrate", .int 90)]).isOk = true := by
    decide +kernel
  cases created : create { Settings.stock with feedRate := .nan } [("feed_feedrate", .int 90)] with
  | error e =>
      rw [created] at accepted
      cases accepted
  | ok k => exact ⟨k, rfl, result.1 k created _⟩

end Compiler

end Wireform
