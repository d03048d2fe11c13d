import Wireform.Proofs.Settings.Layers

/-!
Sections that are no maps.

A section of a document is a map, or null, or left out, and anything else is refused. Yet a value
is asked first whether it counts as absent, and only then for its kind. So false, zero and what is
empty pass for sections that are left out, whatever their kind.

* `exists_section_iff`, `ofEntries_eq_section_iff`: which section is refused, if any is.
* `ofEntries_of_filter`: what passes for a section without being one holds no settings.
-/

namespace Wireform.Settings

variable {entries entries' : List (Value × Value)} {name kind : String}

/-- The sections of a document, in the order in which they are read. -/
def sectionNames : List String :=
  ["feedrates", "clearances", "duck"]

/-- The first section that is there and does not pass for one. -/
def firstMisfit? (entries : List (Value × Value)) : Option String :=
  sectionNames.find? fun n => !(Value.get? entries n).all Value.passesForSection

theorem sectionName_mem (s : Setting) : s.sectionName ∈ sectionNames := by
  cases s <;> decide

theorem passes_of_firstMisfit? (fit : firstMisfit? entries = none) (mem : name ∈ sectionNames) :
    (Value.get? entries name).all Value.passesForSection = true := by
  have passes := List.find?_eq_none.1 fit name mem
  simpa using passes

theorem sectionOf_of_misfit
    (misfit : (Value.get? entries name).all Value.passesForSection = false) :
    ∃ v, Value.get? entries name = some v ∧
      sectionOf entries name = .error (.section name v.kind) := by
  unfold sectionOf
  cases found : Value.get? entries name with
  | none =>
      rw [found] at misfit
      cases misfit
  | some v =>
      rw [found] at misfit
      refine ⟨v, rfl, ?_⟩
      obtain ⟨other, vacant⟩ : v.isSection = false ∧ v.isVacant = false :=
        Bool.or_eq_false_iff.1 misfit
      cases v with
      | map es => cases other
      | _ => exact if_neg (by rw [vacant]; exact Bool.false_ne_true)

/-- Sections are read in order, so that the first one that does not pass is named. -/
theorem ofEntries_of_firstMisfit? (misfit : firstMisfit? entries = some name) :
    ∃ v, Value.get? entries name = some v ∧
      ofEntries entries = .error (.section name v.kind) := by
  have read {n : String} (passes : (Value.get? entries n).all Value.passesForSection = true) :=
    sectionOf_eq passes
  unfold firstMisfit? sectionNames at misfit
  cases feeds : (Value.get? entries "feedrates").all Value.passesForSection with
  | false =>
      obtain rfl : "feedrates" = name := by simpa [feeds] using misfit
      obtain ⟨v, found, refused⟩ := sectionOf_of_misfit feeds
      exact ⟨v, found, by rw [ofEntries, refused]; rfl⟩
  | true =>
  cases clearances : (Value.get? entries "clearances").all Value.passesForSection with
  | false =>
      obtain rfl : "clearances" = name := by simpa [feeds, clearances] using misfit
      obtain ⟨v, found, refused⟩ := sectionOf_of_misfit clearances
      exact ⟨v, found, by rw [ofEntries, read feeds, refused]; rfl⟩
  | true =>
  cases duck : (Value.get? entries "duck").all Value.passesForSection with
  | true => simp [feeds, clearances, duck] at misfit
  | false =>
      obtain rfl : "duck" = name := by simpa [feeds, clearances, duck] using misfit
      obtain ⟨v, found, refused⟩ := sectionOf_of_misfit duck
      exact ⟨v, found, by rw [ofEntries, read feeds, read clearances, refused]; rfl⟩

/-- Behind the sections, it is numbers that are refused. -/
theorem ofEntries_ne_section (fit : firstMisfit? entries = none) :
    ofEntries entries ≠ .error (.section name kind) := by
  have read {n : String} (mem : n ∈ sectionNames) :
      sectionOf entries n ≠ .error (.section name kind) := by
    rw [sectionOf_eq (passes_of_firstMisfit? fit mem)]
    nofun
  intro refused
  obtain unread | ⟨feeds, -, refused⟩ := bind_eq_error_iff.1 refused
  · exact read (by decide) unread
  obtain unread | ⟨clearances, -, refused⟩ := bind_eq_error_iff.1 refused
  · exact read (by decide) unread
  obtain unread | ⟨duck, -, refused⟩ := bind_eq_error_iff.1 refused
  · exact read (by decide) unread
  obtain unread | ⟨c, -, invalid⟩ := bind_eq_error_iff.1 refused
  · obtain ⟨n, other⟩ := error_of_foldlM unread
    cases other
  · obtain ⟨e, -, other⟩ := mapError_eq_error_iff.1 invalid
    cases other

theorem ofEntries_eq_section_iff :
    ofEntries entries = .error (.section name kind) ↔
      firstMisfit? entries = some name ∧ (Value.get? entries name).map Value.kind = some kind := by
  cases misfit : firstMisfit? entries with
  | none =>
      exact iff_of_false (ofEntries_ne_section misfit) nofun
  | some first =>
      obtain ⟨v, found, refused⟩ := ofEntries_of_firstMisfit? misfit
      rw [refused, Except.error.injEq, LoadError.section.injEq, Option.some.injEq]
      refine and_congr_right fun same => ?_
      rw [← same, found, Option.map_some, Option.some.injEq]

/-- What passes for a section without being one holds no settings. -/
theorem valueFor?_of_filter (sifted : ∀ n ∈ sectionNames,
    Value.get? entries' n = (Value.get? entries n).filter Value.isSection) :
    valueFor? entries' = valueFor? entries := by
  funext s
  unfold valueFor?
  rw [sifted _ (sectionName_mem s)]
  cases Value.get? entries s.sectionName with
  | none => rfl
  | some v => cases v <;> rfl

theorem hasSections_of_filter (sifted : ∀ n ∈ sectionNames,
    Value.get? entries' n = (Value.get? entries n).filter Value.isSection) :
    HasSections entries' := by
  intro s
  rw [sifted _ (sectionName_mem s), Option.all_eq_true]
  intro v kept
  exact (Option.filter_eq_some_iff.1 kept).2

theorem firstMisfit?_isSome_iff :
    (firstMisfit? entries).isSome = true ↔
      ∃ n ∈ sectionNames, ∃ v, Value.get? entries n = some v ∧ v.isSection = false ∧
        v.isVacant = false := by
  refine List.find?_isSome.trans (exists_congr fun n => and_congr_right fun _ => ?_)
  cases Value.get? entries n <;> simp [Value.passesForSection]

theorem exists_section_iff :
    (∃ name kind, ofEntries entries = .error (.section name kind)) ↔
      ∃ n ∈ sectionNames, ∃ v, Value.get? entries n = some v ∧ v.isSection = false ∧
        v.isVacant = false := by
  rw [← firstMisfit?_isSome_iff]
  constructor
  · intro ⟨name, kind, refused⟩
    rw [(ofEntries_eq_section_iff.1 refused).1]
    rfl
  · intro there
    obtain ⟨name, misfit⟩ := Option.isSome_iff_exists.1 there
    obtain ⟨v, -, refused⟩ := ofEntries_of_firstMisfit? misfit
    exact ⟨name, v.kind, refused⟩

/-- Sections that only pass for such may as well be left out. -/
theorem ofEntries_of_filter (fit : firstMisfit? entries = none) (sifted : ∀ n ∈ sectionNames,
    Value.get? entries' n = (Value.get? entries n).filter Value.isSection) :
    ofEntries entries' = ofEntries entries := by
  have pass : SectionsPass entries := fun s => passes_of_firstMisfit? fit (sectionName_mem s)
  rw [ofEntries_eq (hasSections_of_filter sifted), ofEntries_of_pass pass,
    valueFor?_of_filter sifted]

/-- A document is refused for a section if and only if one is there that is neither null nor a map
and does not count as absent; the first such section is named, with its kind. If there is none, then
the document is read as if the sections that are neither null nor maps were left out. -/
theorem load_section_iff (t : Storage.Tree) (p : Storage.Path) (entries : List (Value × Value))
    (read : Document.ofFile t p = .ok (.map entries)) :
    ((∃ name kind, (load t (some p)).outcome = .error (.section name kind)) ↔
      ∃ n ∈ sectionNames, ∃ v, Value.get? entries n = some v ∧ v.isSection = false ∧
        v.isVacant = false) ∧
    (∀ name kind, (load t (some p)).outcome = .error (.section name kind) ↔
      firstMisfit? entries = some name ∧
        (Value.get? entries name).map Value.kind = some kind) ∧
    (firstMisfit? entries = none →
      ∀ t' p' entries', Document.ofFile t' p' = .ok (.map entries') →
        (∀ n ∈ sectionNames,
          Value.get? entries' n = (Value.get? entries n).filter Value.isSection) →
        (load t' (some p')).outcome = (load t (some p)).outcome) := by
  rw [outcome_load_of_ofFile read]
  refine ⟨exists_section_iff, fun name kind => ofEntries_eq_section_iff, ?_⟩
  intro fit t' p' entries' read' sifted
  rw [outcome_load_of_ofFile read']
  exact ofEntries_of_filter fit sifted

theorem exists_entries_of_any {ε : Type} {x : Except ε Value} {f : Value → Bool}
    (h : (x.toOption.any fun v => (v.isSection && !v.isVacant) && f v) = true) :
    ∃ entries, x = .ok (.map entries) ∧ f (.map entries) = true := by
  obtain ⟨v, made, checked⟩ := exists_of_any h
  obtain ⟨isMap, held⟩ := Bool.and_eq_true_iff.1 checked
  cases v with
  | map entries => exact ⟨entries, made, held⟩
  | _ => cases isMap

/-- A list without items passes for a section, a number other than zero does not. -/
theorem load_section_iff_number :
    (load (Storage.Tree.plant {} ["m"] (some (Text.encode "feedrates: []\nduck: 7\n")))
      (some (.ofText "m"))).outcome = .error (.section "duck" "int") := by
  have mapped : ((Document.ofFile (Storage.Tree.plant {} ["m"]
      (some (Text.encode "feedrates: []\nduck: 7\n"))) (.ofText "m")).toOption.any
        fun v => (v.isSection && !v.isVacant) && decide (firstMisfit? v.entries = some "duck" ∧
          (Value.get? v.entries "duck").map Value.kind = some "int")) = true := by
    decide +kernel
  have result := load_section_iff (Storage.Tree.plant {} ["m"]
    (some (Text.encode "feedrates: []\nduck: 7\n"))) (.ofText "m")
  generalize Storage.Tree.plant {} ["m"]
    (some (Text.encode "feedrates: []\nduck: 7\n")) = t at mapped result ⊢
  obtain ⟨entries, read, misfit⟩ := exists_entries_of_any mapped
  exact ((result entries read).2.1 "duck" "int").2 (of_decide_eq_true misfit)

/-- A section that is false, which is neither null nor a map, is not refused. -/
theorem load_section_false :
    ∃ entries v c, Document.ofFile (Storage.Tree.plant {} ["m"]
        (some (Text.encode "duck: false\n"))) (.ofText "m") = .ok (.map entries) ∧
      Value.get? entries "duck" = some v ∧ v.isSection = false ∧
      (load (Storage.Tree.plant {} ["m"] (some (Text.encode "duck: false\n")))
        (some (.ofText "m"))).outcome = .ok c := by
  have mapped : ((Document.ofFile (Storage.Tree.plant {} ["m"]
      (some (Text.encode "duck: false\n"))) (.ofText "m")).toOption.any
        fun v => (v.isSection && !v.isVacant) &&
          (Value.get? v.entries "duck").any fun w => !w.isSection) = true := by
    decide +kernel
  have accepted : (load (Storage.Tree.plant {} ["m"] (some (Text.encode "duck: false\n")))
      (some (.ofText "m"))).outcome.isOk = true := by
    decide +kernel
  generalize Storage.Tree.plant {} ["m"] (some (Text.encode "duck: false\n")) = t
    at mapped accepted ⊢
  obtain ⟨entries, read, there⟩ := exists_entries_of_any mapped
  obtain ⟨v, found, other⟩ := (Option.any_eq_true _ _).1 there
  obtain ⟨c, loaded⟩ := exists_of_isOk accepted
  exact ⟨entries, v, c, read, found, by simpa using other, loaded⟩

end Wireform.Settings
