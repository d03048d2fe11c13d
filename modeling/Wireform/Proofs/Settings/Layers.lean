import Wireform.Command.Run
import Wireform.Proofs.Settings.Loading

/-!
Settings in layers.

A setting is what the command line says, else what the document says, else its stock value. Only
rates and clearances can be given on the command line. Settings are checked once as the document has
them and once more behind the command line, so that a number given there does not make up for one in
the document that is refused.

* `ofEntries_of_pass`: the settings of a document depend on its six values alone.
* `foldlM_readValue_eq_ok_iff`: what is read of the document.
* `create_overrides_eq_ok_iff`: what the command line makes of it.
* `layered_of_create`, `exists_create_iff`, `ofEntries_congr`: both together.
-/

namespace Wireform

/-- The entries of a map. Other values have none. -/
def Value.entries : Value → List (Value × Value)
  | .map es => es
  | _ => []

/-- Is the value null or a map? -/
def Value.isSection : Value → Bool
  | .null => true
  | .map _ => true
  | _ => false

/-- Is the value taken for a section, being one or else counting as absent? -/
def Value.passesForSection (v : Value) : Bool :=
  v.isSection || v.isVacant

namespace Settings

variable {entries : List (Value × Value)} {c c' : Settings}

/-- The value that a document has for a setting, under its key in its section. -/
def valueFor? (entries : List (Value × Value)) (s : Setting) : Option Value :=
  (Value.get? entries s.sectionName).bind fun v => Value.get? v.entries s.key

/-- Each section is left out, null or a map. -/
def HasSections (entries : List (Value × Value)) : Prop :=
  ∀ s : Setting, (Value.get? entries s.sectionName).all Value.isSection = true

/-- The settings with the given values. -/
def tabulate (f : Setting → Binary64) : Settings where
  feedRate := f .feedRate
  bendRate := f .bendRate
  positiveClearance := f .positiveClearance
  negativeClearance := f .negativeClearance
  pinRaised := f .pinRaised
  pinLowered := f .pinLowered

@[simp] theorem get_tabulate (f : Setting → Binary64) (s : Setting) : (tabulate f).get s = f s := by
  cases s <;> rfl

theorem eq_of_get (same : ∀ s, c.get s = c'.get s) : c = c' := by
  have expand (d : Settings) : d = tabulate d.get := rfl
  rw [expand c, expand c', funext same]

theorem set_get (c : Settings) (s : Setting) : c.set s (c.get s) = c := by
  cases s <;> rfl

/-- The settings with some numbers in the place of theirs. -/
def replaced (c : Settings) (number? : Setting → Option Binary64) : Settings :=
  tabulate fun s => (number? s).getD (c.get s)

/-! ## The document -/

/-- A section that is taken for one has the entries of its map, if it is a map. -/
theorem sectionOf_eq {name : String}
    (passes : (Value.get? entries name).all Value.passesForSection = true) :
    sectionOf entries name = .ok ((Value.get? entries name).elim [] Value.entries) := by
  unfold sectionOf
  cases found : Value.get? entries name with
  | none => rfl
  | some v =>
      rw [found] at passes
      cases v with
      | null => rfl
      | map es => cases es <;> rfl
      | _ => exact if_pos passes

theorem get?_sectionOf (s : Setting) :
    Value.get? ((Value.get? entries s.sectionName).elim [] Value.entries) s.key =
      valueFor? entries s := by
  unfold valueFor?
  cases Value.get? entries s.sectionName <;> rfl

/-- The settings with one read from a value, if there is one for it. -/
def readValue (value? : Setting → Option Value) (c : Settings) (s : Setting) :
    Except LoadError Settings :=
  match value? s with
  | none => .ok c
  | some v =>
    match v.toNumber with
    | .ok x => .ok (c.set s x)
    | .error e => .error (.value e)

/-- Each section is left out or taken for one. -/
def SectionsPass (entries : List (Value × Value)) : Prop :=
  ∀ s : Setting, (Value.get? entries s.sectionName).all Value.passesForSection = true

theorem HasSections.pass (plain : HasSections entries) : SectionsPass entries := by
  intro s
  have held := plain s
  rw [Option.all_eq_true] at held ⊢
  intro v found
  rw [Value.passesForSection, held v found, Bool.true_or]

/-- What else is in a document does not matter. -/
theorem ofEntries_of_pass (pass : SectionsPass entries) :
    ofEntries entries = (do
      let c ← Setting.all.foldlM (readValue (valueFor? entries)) stock
      (c.validate).mapError .invalid) := by
  have feeds : sectionOf entries "feedrates" = _ := sectionOf_eq (pass .feedRate)
  have clearances : sectionOf entries "clearances" = _ := sectionOf_eq (pass .positiveClearance)
  have duck : sectionOf entries "duck" = _ := sectionOf_eq (pass .pinRaised)
  have read : readSetting (fun name => if name = "feedrates" then
      (Value.get? entries "feedrates").elim [] Value.entries
      else if name = "clearances" then (Value.get? entries "clearances").elim [] Value.entries
      else (Value.get? entries "duck").elim [] Value.entries) = readValue (valueFor? entries) := by
    funext c s
    rw [readValue, ← get?_sectionOf s]
    cases s <;> rfl
  unfold ofEntries
  rw [feeds, clearances, duck, ← read]
  rfl

theorem ofEntries_eq (plain : HasSections entries) :
    ofEntries entries = (do
      let c ← Setting.all.foldlM (readValue (valueFor? entries)) stock
      (c.validate).mapError .invalid) :=
  ofEntries_of_pass plain.pass

section Reading

variable {value? : Setting → Option Value}

/-- The number that a value makes, if there is one and it makes one. -/
def number? (value? : Setting → Option Value) (s : Setting) : Option Binary64 :=
  match value? s with
  | none => none
  | some v =>
    match v.toNumber with
    | .ok x => some x
    | .error _ => none

theorem readValue_eq_ok_iff {s : Setting} :
    readValue value? c s = .ok c' ↔
      (∀ v, value? s = some v → ∃ x, v.toNumber = .ok x) ∧
        c' = c.set s ((number? value? s).getD (c.get s)) := by
  unfold readValue number?
  cases value? s with
  | none => simp [set_get, eq_comm]
  | some v =>
      cases made : v.toNumber with
      | error e => simp [made]
      | ok x => simp [made, eq_comm]

/-- Settings are read one after the other if all values that are there make numbers, and each takes
the place of the one before. -/
theorem foldlM_readValue_eq_ok_iff {settings : List Setting} :
    settings.foldlM (readValue value?) c = .ok c' ↔
      (∀ s ∈ settings, ∀ v, value? s = some v → ∃ x, v.toNumber = .ok x) ∧
        c' = c.replaced fun s => if s ∈ settings then number? value? s else none := by
  induction settings generalizing c with
  | nil =>
      have kept : c.replaced (fun s => if s ∈ ([] : List Setting) then number? value? s else none) =
          c := eq_of_get fun s => by simp [replaced]
      rw [kept]
      simp [pure, Except.pure, eq_comm]
  | cons s settings ih =>
      -- A setting that comes up again is replaced by the same number again.
      have further : (c.set s ((number? value? s).getD (c.get s))).replaced
          (fun t => if t ∈ settings then number? value? t else none) =
          c.replaced fun t => if t ∈ s :: settings then number? value? t else none := by
        refine eq_of_get fun t => ?_
        simp only [replaced, get_tabulate, get_set, List.mem_cons]
        by_cases here : t = s
        · subst here
          cases number? value? t <;> by_cases again : t ∈ settings <;> simp [again]
        · simp [here]
      rw [List.foldlM_cons, bind_eq_ok_iff, List.forall_mem_cons]
      simp only [readValue_eq_ok_iff, ih]
      constructor
      · rintro ⟨c₁, ⟨first, rfl⟩, rest, rfl⟩
        exact ⟨⟨first, rest⟩, further⟩
      · rintro ⟨⟨first, rest⟩, rfl⟩
        exact ⟨_, ⟨first, rfl⟩, rest, further.symm⟩

end Reading

/-- The settings of a document: those in it, and else the stock ones. -/
def ofDocument (entries : List (Value × Value)) : Settings :=
  stock.replaced (number? (valueFor? entries))

theorem ofEntries_eq_ok_iff (plain : HasSections entries) :
    ofEntries entries = .ok c ↔
      (∀ s v, valueFor? entries s = some v → ∃ x, v.toNumber = .ok x) ∧ (ofDocument entries).Valid ∧
        c = ofDocument entries := by
  have all : stock.replaced (fun s => if s ∈ Setting.all then number? (valueFor? entries) s else none) =
      ofDocument entries := by
    simp only [Setting.mem_all, if_true, ofDocument]
  rw [ofEntries_eq plain, bind_eq_ok_iff]
  simp only [foldlM_readValue_eq_ok_iff, mapError_eq_ok_iff, validate_eq_ok_iff, all]
  constructor
  · rintro ⟨_, ⟨numbers, rfl⟩, rfl, valid⟩
    exact ⟨fun s => numbers s s.mem_all, valid, rfl⟩
  · rintro ⟨numbers, valid, rfl⟩
    exact ⟨_, ⟨fun s _ => numbers s, rfl⟩, rfl, valid⟩

theorem outcome_load_of_ofFile {t : Storage.Tree} {p : Storage.Path}
    (read : Document.ofFile t p = .ok (.map entries)) :
    (load t (some p)).outcome = ofEntries entries := by
  have there : t.contains p = .ok true := by
    unfold Document.ofFile at read
    cases asked : t.contains p with
    | error e =>
        rw [asked] at read
        cases read
    | ok found =>
        cases found with
        | true => rfl
        | false =>
            rw [asked] at read
            cases read
  rw [outcome_load, loadFrom, locate, there, fetch, ofFile, read]
  rfl

end Settings

namespace Command

/-- What the command line gives for a setting. -/
def Invocation.flag (i : Invocation) : Setting → Given Binary64
  | .feedRate => i.feedRate
  | .bendRate => i.bendRate
  | .positiveClearance => i.positiveClearance
  | .negativeClearance => i.negativeClearance
  | .pinRaised => .absent
  | .pinLowered => .absent

/-- The value that was given. -/
def Given.value? {α : Type} : Given α → Option α
  | .value a => some a
  | _ => none

variable {c : Settings} {i : Invocation}

theorem put_overrideOf (s : Setting) {g : Given Binary64} (numeric : g ≠ .blank) :
    c.put s.name (overrideOf g) = .ok (c.set s (g.value?.getD (c.get s))) := by
  cases g with
  | absent => exact congrArg Except.ok (Settings.set_get c s).symm
  | blank => exact absurd rfl numeric
  | value x =>
      change Except.ok ((Setting.ofName? s.name).elim c fun s => c.set s x) = _
      rw [Setting.ofName?_name]
      rfl

theorem override_overrides (numeric : ∀ s, i.flag s ≠ .blank) :
    c.override (overrides i) = (c.replaced fun s => (i.flag s).value?).validate := by
  have names : Settings.unknownNames (overrides i) = [] := by
    simp [Settings.unknownNames, overrides, Setting.ofName?_name]
  have taken : Settings.checkTaken "BenderConfig.with_overrides" ["self"] (overrides i) = .ok () :=
    rfl
  have put : c.putAll (overrides i) = .ok (c.replaced fun s => (i.flag s).value?) := by
    have feed : i.feedRate ≠ .blank := numeric .feedRate
    have bend : i.bendRate ≠ .blank := numeric .bendRate
    have positive : i.positiveClearance ≠ .blank := numeric .positiveClearance
    have negative : i.negativeClearance ≠ .blank := numeric .negativeClearance
    simp only [overrides, Settings.putAll, put_overrideOf _ feed, put_overrideOf _ bend,
      put_overrideOf _ positive, put_overrideOf _ negative]
    refine congrArg Except.ok (Settings.eq_of_get fun s => ?_)
    cases s <;> rfl
  simp only [Settings.override, taken, names, put]

theorem create_overrides_eq_ok_iff (numeric : ∀ s, i.flag s ≠ .blank) {k : Compiler} :
    Compiler.create c (overrides i) = .ok k ↔
      (c.replaced fun s => (i.flag s).value?).Valid ∧
        k.settings = c.replaced fun s => (i.flag s).value? := by
  have taken : Settings.checkTaken "BendCompiler.__init__" ["self", "config"] (overrides i) =
      .ok () := rfl
  obtain ⟨settings⟩ := k
  simp only [Compiler.create, taken, override_overrides numeric]
  generalize c.replaced (fun s => (i.flag s).value?) = c'
  cases checked : c'.validate with
  | ok d =>
      obtain ⟨rfl, valid⟩ := Settings.validate_eq_ok_iff.1 checked
      simp [valid, eq_comm]
  | error e =>
      have invalid := Settings.validate_eq_error_iff.1 ⟨e, checked⟩
      simp [invalid]

/-- Where a setting comes from: the command line, else the document, else the stock settings. -/
inductive Layered (flag : Given Binary64) (entry : Option Value) (stock : Binary64) :
    Binary64 → Prop
  | flag {x : Binary64} (given : flag = .value x) : Layered flag entry stock x
  | document {v : Value} {x : Binary64} (absent : flag = .absent) (there : entry = some v)
      (number : v.toNumber = .ok x) : Layered flag entry stock x
  | stock (absent : flag = .absent) (missing : entry = none) : Layered flag entry stock stock

open Settings in
theorem layered_get {entries : List (Value × Value)} (numeric : ∀ s, i.flag s ≠ .blank)
    (numbers : ∀ s v, valueFor? entries s = some v → ∃ x, v.toNumber = .ok x) (s : Setting) :
    Layered (i.flag s) (valueFor? entries s) (stock.get s)
      (((ofDocument entries).replaced fun s => (i.flag s).value?).get s) := by
  rw [Settings.replaced, get_tabulate, ofDocument, Settings.replaced, get_tabulate]
  cases given : i.flag s with
  | blank => exact absurd given (numeric s)
  | value x => exact .flag rfl
  | absent =>
      cases there : valueFor? entries s with
      | none =>
          have missing : number? (valueFor? entries) s = none := by
            simp only [number?, there]
          rw [missing]
          exact .stock rfl rfl
      | some v =>
          obtain ⟨x, made⟩ := numbers s v there
          have number : number? (valueFor? entries) s = some x := by
            simp only [number?, there, made]
          rw [number]
          exact .document rfl rfl made

/-! ## Both together, however the document is read -/

section Entries

open Settings

variable {entries entries' : List (Value × Value)}

theorem layered_of_create (sections : HasSections entries) (numeric : ∀ s, i.flag s ≠ .blank)
    {k : Compiler} (read : ofEntries entries = .ok c)
    (created : Compiler.create c (overrides i) = .ok k) (s : Setting) :
    Layered (i.flag s) (valueFor? entries s) (stock.get s) (k.settings.get s) := by
  obtain ⟨numbers, -, rfl⟩ := (ofEntries_eq_ok_iff sections).1 read
  obtain ⟨-, settings⟩ := (create_overrides_eq_ok_iff numeric).1 created
  rw [settings]
  exact layered_get numeric numbers s

theorem exists_create_iff (sections : HasSections entries) (numeric : ∀ s, i.flag s ≠ .blank) :
    (∃ base k, ofEntries entries = .ok base ∧ Compiler.create base (overrides i) = .ok k) ↔
      (∀ s v, valueFor? entries s = some v → ∃ x, v.toNumber = .ok x) ∧
      (ofDocument entries).Valid ∧
      ((ofDocument entries).replaced fun s => (i.flag s).value?).Valid := by
  constructor
  · intro ⟨base, k, read, created⟩
    obtain ⟨numbers, valid, rfl⟩ := (ofEntries_eq_ok_iff sections).1 read
    exact ⟨numbers, valid, ((create_overrides_eq_ok_iff numeric).1 created).1⟩
  · intro ⟨numbers, valid, flagged⟩
    have read := (ofEntries_eq_ok_iff sections).2 ⟨numbers, valid, rfl⟩
    exact ⟨_, ⟨_⟩, read, (create_overrides_eq_ok_iff numeric).2 ⟨flagged, rfl⟩⟩

theorem ofEntries_congr (sections : HasSections entries) (sections' : HasSections entries')
    (same : valueFor? entries' = valueFor? entries) : ofEntries entries' = ofEntries entries := by
  rw [ofEntries_eq sections', ofEntries_eq sections, same]

end Entries

open Settings in
/-- Settings that are read from a document and replaced from the command line come from the command
line where it gives them, else from the document where it has them, and else they are the stock
ones. They are had if and only if each value in the document makes a number and the settings are
valid both as the document has them and behind the command line. Nothing in a document matters but
the values of the settings. -/
theorem settings_by_layers (t : Storage.Tree) (p : Storage.Path) (entries : List (Value × Value))
    (i : Invocation) (read : Document.ofFile t p = .ok (.map entries))
    (sections : HasSections entries) (numeric : ∀ s, i.flag s ≠ .blank) :
    (∀ base k, (load t (some p)).outcome = .ok base →
      Compiler.create base (overrides i) = .ok k →
      ∀ s, Layered (i.flag s) (valueFor? entries s) (stock.get s) (k.settings.get s)) ∧
    ((∃ base k, (load t (some p)).outcome = .ok base ∧
        Compiler.create base (overrides i) = .ok k) ↔
      (∀ s v, valueFor? entries s = some v → ∃ x, v.toNumber = .ok x) ∧
      (ofDocument entries).Valid ∧
      ((ofDocument entries).replaced fun s => (i.flag s).value?).Valid) ∧
    ∀ t' p' entries', Document.ofFile t' p' = .ok (.map entries') → HasSections entries' →
      valueFor? entries' = valueFor? entries →
      (load t' (some p')).outcome = (load t (some p)).outcome := by
  rw [outcome_load_of_ofFile read]
  refine ⟨fun base k => layered_of_create sections numeric, exists_create_iff sections numeric, ?_⟩
  intro t' p' entries' read' sections' same
  rw [outcome_load_of_ofFile read']
  exact ofEntries_congr sections sections' same

open Settings in
/-- A document with one rate, a key that is not known and a section without a value; the other rate
is given on the command line. -/
theorem settings_by_layers_over_file :
    ∃ entries, Document.ofFile (Storage.Tree.plant {} ["m"]
        (some (Text.encode "feedrates:\n  feed: 90\n  hue: 3\nduck:\n"))) (.ofText "m") =
          .ok (.map entries) ∧
      HasSections entries ∧
      ∃ base k, (load (Storage.Tree.plant {} ["m"]
          (some (Text.encode "feedrates:\n  feed: 90\n  hue: 3\nduck:\n")))
            (some (.ofText "m"))).outcome = .ok base ∧
        Compiler.create base (overrides { bendRate := .value (.ofInt 4000) }) = .ok k ∧
        ∀ s, Layered (Invocation.flag { bendRate := .value (.ofInt 4000) } s) (valueFor? entries s)
          (stock.get s) (k.settings.get s) := by
  have mapped : ((Document.ofFile (Storage.Tree.plant {} ["m"]
      (some (Text.encode "feedrates:\n  feed: 90\n  hue: 3\nduck:\n"))) (.ofText "m")).toOption.any
        fun v => (v.isSection && !v.isVacant) && Setting.all.all fun s =>
          (Value.get? v.entries s.sectionName).all Value.isSection) = true := by
    decide +kernel
  have accepted : ((load (Storage.Tree.plant {} ["m"]
      (some (Text.encode "feedrates:\n  feed: 90\n  hue: 3\nduck:\n")))
        (some (.ofText "m"))).outcome.toOption.any fun base =>
          (Compiler.create base (overrides { bendRate := .value (.ofInt 4000) })).isOk) = true := by
    decide +kernel
  have result := settings_by_layers (Storage.Tree.plant {} ["m"]
    (some (Text.encode "feedrates:\n  feed: 90\n  hue: 3\nduck:\n"))) (.ofText "m")
  generalize Storage.Tree.plant {} ["m"]
    (some (Text.encode "feedrates:\n  feed: 90\n  hue: 3\nduck:\n")) = t at mapped accepted result ⊢
  obtain ⟨v, read, checked⟩ := exists_of_any mapped
  obtain ⟨isMap, sections⟩ := Bool.and_eq_true_iff.1 checked
  obtain ⟨entries, rfl⟩ : ∃ entries, v = .map entries := by
    cases v with
    | map entries => exact ⟨entries, rfl⟩
    | _ => cases isMap
  have plain : HasSections entries := fun s => List.all_eq_true.1 sections s s.mem_all
  obtain ⟨base, loaded, created⟩ := exists_of_any accepted
  obtain ⟨k, created⟩ := exists_of_isOk created
  have numeric (s : Setting) :
      Invocation.flag { bendRate := .value (.ofInt 4000) } s ≠ .blank := by
    cases s <;> nofun
  refine ⟨entries, read, plain, base, k, loaded, created, ?_⟩
  exact (result entries { bendRate := .value (.ofInt 4000) } read plain numeric).1 base k loaded
    created

end Command

end Wireform
