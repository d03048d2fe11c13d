import Mathlib.Data.List.Nodup
import Wireform.Proofs.Settings.Layers

/-!
Settings replaced again and again.

Values are given under names, in any order and each name at most once, and null gives nothing. They
are accepted as a whole: each name is known, each value makes a number or is null, and what comes
out is valid. What comes out is a table, with a number where one is given and else what was there.
So two sets of values after one another come to the same as both in one, where the second goes
before the first.

* `override_eq_ok_iff`: when values are accepted, and what comes out.
* `Overrides.value?_merge`: what two sets in one give.
-/

namespace Wireform

/-- Is the value null? -/
def Value.isNull : Value → Bool
  | .null => true
  | _ => false

/-- The value is null or makes a number. -/
def Value.Fits (v : Value) : Prop :=
  v.isNull = true ∨ ∃ x, v.toNumber = .ok x

theorem Value.isNull_iff {v : Value} : v.isNull = true ↔ v = .null := by
  cases v with
  | null => exact iff_of_true rfl rfl
  | _ => exact iff_of_false Bool.false_ne_true nofun

theorem Setting.name_injective {s t : Setting} (h : s.name = t.name) : s = t := by
  have found := s.ofName?_name
  rw [h, t.ofName?_name] at found
  exact (Option.some.inj found).symm

namespace Settings

namespace Overrides

variable {o o' : Overrides} {name : String} {v : Value}

/-- Each name is given at most once. -/
def Distinct (o : Overrides) : Prop :=
  (o.map (·.1)).Nodup

instance (o : Overrides) : Decidable o.Distinct :=
  inferInstanceAs (Decidable (o.map (·.1)).Nodup)

/-- What is given under a name. Null gives nothing. -/
def value? (o : Overrides) (name : String) : Option Value :=
  (o.lookup name).filter fun v => !v.isNull

/-- Each name is that of a setting, and each value is null or makes a number. -/
def Acceptable (o : Overrides) : Prop :=
  ∀ e ∈ o, (∃ s : Setting, e.1 = s.name) ∧ e.2.Fits

/-- Two sets of values in one: under each name what the second gives, and else what the first
has. -/
def merge (o o' : Overrides) : Overrides :=
  o.map (fun e => (e.1, (o'.value? e.1).getD e.2)) ++ o'.filter fun e => (o.lookup e.1).isNone

/-! ## Values by name -/

theorem lookup_eq_some_iff (distinct : o.Distinct) : o.lookup name = some v ↔ (name, v) ∈ o := by
  induction o with
  | nil => simp
  | cons first o ih =>
      obtain ⟨name', v'⟩ := first
      obtain ⟨fresh, distinct⟩ := List.nodup_cons.1 distinct
      by_cases here : name = name'
      · subst here
        have once : (name, v) ∉ o := fun mem => fresh (List.mem_map_of_mem (f := (·.1)) mem)
        simp [once, eq_comm]
      · rw [List.lookup_cons, beq_false_of_ne here, List.mem_cons, Prod.mk.injEq]
        simp [here, ih distinct]

theorem value?_eq_some_iff (distinct : o.Distinct) :
    o.value? name = some v ↔ (name, v) ∈ o ∧ v.isNull = false := by
  rw [value?, Option.filter_eq_some_iff, lookup_eq_some_iff distinct, Bool.not_eq_true']

theorem value?_of_perm (distinct : o.Distinct) (same : o.Perm o') :
    o.value? name = o'.value? name := by
  have distinct' : o'.Distinct := (same.map Prod.fst).nodup_iff.1 distinct
  ext v
  rw [value?_eq_some_iff distinct, value?_eq_some_iff distinct', same.mem_iff]

theorem Acceptable.of_perm (acceptable : o.Acceptable) (same : o.Perm o') : o'.Acceptable :=
  fun e mem => acceptable e (same.mem_iff.2 mem)

/-! ## Two sets in one -/

theorem lookup_map (f : String × Value → Value) :
    (o.map fun e => (e.1, f e)).lookup name = (o.lookup name).map fun v => f (name, v) := by
  induction o with
  | nil => rfl
  | cons first o ih =>
      obtain ⟨name', v'⟩ := first
      rw [List.map_cons, List.lookup_cons, List.lookup_cons, ih]
      by_cases here : name = name'
      · subst here
        simp
      · simp [beq_false_of_ne here]

theorem lookup_filter (keep : String → Bool) :
    (o.filter fun e => keep e.1).lookup name = if keep name then o.lookup name else none := by
  induction o with
  | nil => simp
  | cons first o ih =>
      obtain ⟨name', v'⟩ := first
      by_cases here : name = name'
      · subst here
        cases kept : keep name <;> simp [kept, ih]
      · cases kept : keep name' <;> simp [kept, ih, List.lookup_cons, beq_false_of_ne here]

theorem value?_merge (o o' : Overrides) (name : String) :
    (o.merge o').value? name = (o'.value? name).or (o.value? name) := by
  rw [value?, merge, List.lookup_append, lookup_map,
    lookup_filter (fun name => (o.lookup name).isNone)]
  cases first : o.lookup name with
  | none =>
      have nothing : o.value? name = none := by rw [value?, first, Option.filter_none]
      rw [nothing, Option.or_none]
      rfl
  | some v =>
      rw [Option.map_some, Option.some_or]
      cases second : o'.value? name with
      | none =>
          rw [Option.none_or, value?, first]
          rfl
      | some w =>
          have notNull : (!w.isNull) = true := (Option.filter_eq_some_iff.1 second).2
          exact Option.filter_some_pos notNull

theorem Distinct.merge (distinct : o.Distinct) (distinct' : o'.Distinct) :
    (o.merge o').Distinct := by
  have names : (o.map fun e => (e.1, (o'.value? e.1).getD e.2)).map (·.1) = o.map (·.1) := by
    rw [List.map_map]
    rfl
  rw [Distinct, Overrides.merge, List.map_append, names, List.nodup_append']
  refine ⟨distinct, distinct'.sublist (List.filter_sublist.map _), ?_⟩
  -- A name that the second set adds is not in the first.
  intro name mem mem'
  obtain ⟨e, filtered, rfl⟩ := List.mem_map.1 mem'
  have absent := (List.mem_filter.1 filtered).2
  obtain ⟨e', held, same⟩ := List.mem_map.1 mem
  have found := (lookup_eq_some_iff distinct).2 (show (e'.1, e'.2) ∈ o from held)
  rw [← same, found] at absent
  cases absent

theorem Acceptable.merge (acceptable : o.Acceptable) (acceptable' : o'.Acceptable) :
    (o.merge o').Acceptable := by
  intro e mem
  rcases List.mem_append.1 mem with mem | mem
  · obtain ⟨e, held, rfl⟩ := List.mem_map.1 mem
    refine ⟨(acceptable e held).1, ?_⟩
    cases given : o'.value? e.1 with
    | none => exact (acceptable e held).2
    | some v =>
        obtain ⟨before, after, same, -⟩ :=
          List.lookup_eq_some_iff.1 (Option.filter_eq_some_iff.1 given).1
        exact (acceptable' (e.1, v) (same ▸ by simp)).2
  · exact acceptable' e (List.mem_of_mem_filter mem)

end Overrides

variable {c c' : Settings} {o o' : Overrides}

/-! ## Values put in -/

/-- The numbers that are given for settings. -/
def Overrides.number? (o : Overrides) : Setting → Option Binary64 :=
  Settings.number? fun s => o.value? s.name

theorem Overrides.number?_of_value?_eq_none {s : Setting} (nothing : o.value? s.name = none) :
    o.number? s = none := by
  simp only [Overrides.number?, Settings.number?, nothing]

theorem Overrides.number?_cons_self (s : Setting) (v : Value) :
    Overrides.number? ((s.name, v) :: o) s = Settings.number? (fun _ => some v) s := by
  have given : Overrides.value? ((s.name, v) :: o) s.name = (some v).filter fun v => !v.isNull := by
    rw [value?, List.lookup_cons_self]
  rw [Overrides.number?, Settings.number?, given]
  by_cases null : v.isNull = true
  · obtain rfl := Value.isNull_iff.1 null
    rfl
  · rw [Option.filter_some_pos (by simpa using null)]
    rfl

theorem Overrides.number?_cons_of_ne {s t : Setting} (other : t ≠ s) (v : Value) :
    Overrides.number? ((s.name, v) :: o) t = o.number? t := by
  have names : t.name ≠ s.name := mt Setting.name_injective other
  have given : Overrides.value? ((s.name, v) :: o) t.name = o.value? t.name := by
    rw [value?, List.lookup_cons, beq_false_of_ne names]
    rfl
  rw [Overrides.number?, Settings.number?, given]
  rfl

theorem put_eq_ok_iff {s : Setting} {v : Value} :
    c.put s.name v = .ok c' ↔
      v.Fits ∧ c' = c.set s ((number? (fun _ => some v) s).getD (c.get s)) := by
  by_cases null : v = .null
  · subst null
    have kept : (number? (fun _ => some Value.null) s).getD (c.get s) = c.get s := rfl
    rw [kept, set_get]
    refine ⟨fun h => ?_, fun h => ?_⟩
    · cases h
      exact ⟨.inl rfl, rfl⟩
    · rw [h.2]
      rfl
  · have fits : v.Fits ↔ ∃ x, v.toNumber = .ok x := or_iff_right (mt Value.isNull_iff.1 null)
    unfold put number?
    rw [fits]
    cases made : v.toNumber with
    | ok x => simp [made, Setting.ofName?_name, eq_comm]
    | error e => cases e <;> simp

/-- Values are put in one after the other if all of them fit, and each setting then has the number
that is given for it. -/
theorem putAll_eq_ok_iff (distinct : o.Distinct) (known : ∀ e ∈ o, ∃ s : Setting, e.1 = s.name) :
    c.putAll o = .ok c' ↔ (∀ e ∈ o, e.2.Fits) ∧ c' = c.replaced o.number? := by
  induction o generalizing c with
  | nil =>
      have kept : c.replaced (Overrides.number? []) = c := eq_of_get fun s => rfl
      rw [kept]
      simp [putAll, eq_comm]
  | cons first o ih =>
      obtain ⟨name, v⟩ := first
      rw [List.forall_mem_cons] at known
      obtain ⟨⟨s, rfl⟩, known⟩ := known
      obtain ⟨fresh, distinct⟩ := List.nodup_cons.1 distinct
      -- Its name does not come up again, so what is put in first stays.
      have further : (c.set s ((number? (fun _ => some v) s).getD (c.get s))).replaced
          (Overrides.number? o) = c.replaced (Overrides.number? ((s.name, v) :: o)) := by
        refine eq_of_get fun t => ?_
        simp only [replaced, get_tabulate, get_set]
        by_cases here : t = s
        · subst here
          have nothing : Overrides.value? o t.name = none := by
            rw [Overrides.value?, List.lookup_eq_none_iff.2, Option.filter_none]
            intro e mem
            exact bne_iff_ne.2 fun same => fresh (same ▸ List.mem_map_of_mem (f := (·.1)) mem)
          rw [Overrides.number?_of_value?_eq_none nothing, Overrides.number?_cons_self]
          simp
        · rw [Overrides.number?_cons_of_ne here, if_neg here]
      have step : c.putAll ((s.name, v) :: o) = .ok c' ↔
          ∃ c₁, c.put s.name v = .ok c₁ ∧ c₁.putAll o = .ok c' := by
        rw [putAll]
        cases c.put s.name v <;> simp
      rw [step, List.forall_mem_cons]
      simp only [put_eq_ok_iff, ih distinct known]
      constructor
      · rintro ⟨_, ⟨fits, rfl⟩, rest, rfl⟩
        exact ⟨⟨fits, rest⟩, further⟩
      · rintro ⟨⟨fits, rest⟩, rfl⟩
        exact ⟨_, ⟨fits, rfl⟩, rest, further.symm⟩

/-! ## Settings replaced -/

theorem unknownNames_eq_nil_iff :
    unknownNames o = [] ↔ ∀ e ∈ o, ∃ s : Setting, e.1 = s.name := by
  have known (name : String) :
      ¬ (Setting.ofName? name).isNone = true ↔ ∃ s : Setting, name = s.name := by
    constructor
    · intro found
      obtain ⟨s, found⟩ := Option.ne_none_iff_exists'.1 (mt Option.isNone_iff_eq_none.2 found)
      rw [Setting.ofName?] at found
      have same := List.find?_some found
      exact ⟨s, (eq_of_beq same).symm⟩
    · rintro ⟨s, rfl⟩
      rw [s.ofName?_name]
      exact Bool.false_ne_true
  rw [unknownNames, ← List.length_eq_zero_iff, List.length_mergeSort, List.length_eq_zero_iff,
    List.filter_eq_nil_iff, List.forall_mem_map]
  simp only [known]

theorem checkTaken_of_known {action : String} (known : ∀ e ∈ o, ∃ s : Setting, e.1 = s.name) :
    checkTaken action ["self"] o = .ok () := by
  have free : (o.find? fun e => ["self"].contains e.1) = none := by
    rw [List.find?_eq_none]
    intro e mem
    obtain ⟨s, same⟩ := known e mem
    rw [same]
    cases s <;> decide
  rw [checkTaken, free]

/-- Values are accepted if the names are known, the values fit and the outcome is valid; and the
outcome has the numbers that are given, and else what was there. -/
theorem override_eq_ok_iff (distinct : o.Distinct) :
    c.override o = .ok c' ↔ o.Acceptable ∧ c' = c.replaced o.number? ∧ c'.Valid := by
  have parts : o.Acceptable ↔ (∀ e ∈ o, ∃ s : Setting, e.1 = s.name) ∧ ∀ e ∈ o, e.2.Fits :=
    forall₂_and
  rw [parts]
  by_cases known : ∀ e ∈ o, ∃ s : Setting, e.1 = s.name
  · have step : c.override o = .ok c' ↔ ∃ c₁, c.putAll o = .ok c₁ ∧ c₁.validate = .ok c' := by
      unfold override
      rw [checkTaken_of_known known, unknownNames_eq_nil_iff.2 known]
      cases c.putAll o <;> simp
    rw [step]
    simp only [putAll_eq_ok_iff distinct known, validate_eq_ok_iff]
    constructor
    · rintro ⟨_, ⟨fits, rfl⟩, rfl, valid⟩
      exact ⟨⟨known, fits⟩, rfl, valid⟩
    · rintro ⟨⟨-, fits⟩, rfl, valid⟩
      exact ⟨_, ⟨fits, rfl⟩, rfl, valid⟩
  · refine iff_of_false (fun accepted => ?_) fun all => known all.1.1
    have unknown := mt unknownNames_eq_nil_iff.1 known
    unfold override at accepted
    split at accepted
    · cases accepted
    · split at accepted
      · next none => exact unknown none
      · cases accepted

theorem replaced_replaced (c : Settings) (first second : Setting → Option Binary64) :
    (c.replaced first).replaced second = c.replaced fun s => (second s).or (first s) := by
  refine eq_of_get fun s => ?_
  simp only [replaced, get_tabulate]
  cases second s <;> rfl

theorem Overrides.number?_merge (distinct : o'.Distinct) (acceptable : o'.Acceptable)
    (s : Setting) : (o.merge o').number? s = (o'.number? s).or (o.number? s) := by
  simp only [Overrides.number?, Settings.number?, value?_merge]
  cases given : o'.value? s.name with
  | none => rfl
  | some v =>
      obtain ⟨mem, notNull⟩ := (value?_eq_some_iff distinct).1 given
      rcases (acceptable _ mem).2 with null | ⟨x, made⟩
      · rw [notNull] at null
        cases null
      · simp only [Option.some_or, made]

/-- Two sets of values after one another come to the same as both in one. -/
theorem override_of_override (distinct : o.Distinct) (distinct' : o'.Distinct) {c₁ c₂ : Settings}
    (first : c.override o = .ok c₁) (second : c₁.override o' = .ok c₂) :
    c.override (o.merge o') = .ok c₂ := by
  obtain ⟨acceptable, rfl, -⟩ := (override_eq_ok_iff distinct).1 first
  obtain ⟨acceptable', rfl, valid⟩ := (override_eq_ok_iff distinct').1 second
  have numbers : (o.merge o').number? = fun s => (o'.number? s).or (o.number? s) :=
    funext (Overrides.number?_merge distinct' acceptable')
  rw [override_eq_ok_iff (distinct.merge distinct'), numbers, replaced_replaced]
  rw [replaced_replaced] at valid
  exact ⟨acceptable.merge acceptable', rfl, valid⟩

/-- A setting stays as it was unless a value other than null is given for it. -/
theorem get_of_override (distinct : o.Distinct) (accepted : c.override o = .ok c') {s : Setting}
    (null : ∀ v, (s.name, v) ∈ o → v = .null) : c'.get s = c.get s := by
  obtain ⟨-, rfl, -⟩ := (override_eq_ok_iff distinct).1 accepted
  have nothing : o.value? s.name = none := by
    rw [Option.eq_none_iff_forall_ne_some]
    intro v given
    obtain ⟨mem, notNull⟩ := (Overrides.value?_eq_some_iff distinct).1 given
    rw [null v mem] at notNull
    cases notNull
  rw [replaced, get_tabulate, Overrides.number?_of_value?_eq_none nothing, Option.getD_none]

theorem override_again (distinct : o.Distinct) (accepted : c.override o = .ok c') :
    c'.override o = .ok c' := by
  obtain ⟨acceptable, rfl, valid⟩ := (override_eq_ok_iff distinct).1 accepted
  refine (override_eq_ok_iff distinct).2 ⟨acceptable, ?_, valid⟩
  rw [replaced_replaced]
  simp only [Option.or_self]

/-- The order in which values are given makes no difference. -/
theorem override_of_perm (distinct : o.Distinct) (same : o.Perm o')
    (accepted : c.override o = .ok c') : c.override o' = .ok c' := by
  have distinct' : o'.Distinct := (same.map Prod.fst).nodup_iff.1 distinct
  have numbers : o'.number? = o.number? := by
    funext s
    simp only [Overrides.number?, Settings.number?, Overrides.value?_of_perm distinct same]
  obtain ⟨acceptable, outcome, valid⟩ := (override_eq_ok_iff distinct).1 accepted
  rw [override_eq_ok_iff distinct', numbers]
  exact ⟨acceptable.of_perm same, outcome, valid⟩

/-- Two sets of values after one another, each of them accepted, come to the same as both in one,
where the second goes before the first unless it is null. A setting that neither names, or only with
null, stays as it was. Giving the same values a second time changes nothing, and neither does the
order in which they are given. -/
theorem override_merge (c : Settings) (o o' : Overrides) (distinct : o.Distinct)
    (distinct' : o'.Distinct) :
    (∀ c₁ c₂, c.override o = .ok c₁ → c₁.override o' = .ok c₂ →
      c.override (o.merge o') = .ok c₂ ∧
      ∀ s : Setting, (∀ v, (s.name, v) ∈ o ++ o' → v = .null) → c₂.get s = c.get s) ∧
    (c.override o >>= fun c₁ => c₁.override o) = c.override o ∧
    ∀ permuted : Overrides, o.Perm permuted →
      ∀ c', c.override o = .ok c' ↔ c.override permuted = .ok c' := by
  refine ⟨?_, ?_, ?_⟩
  · intro c₁ c₂ first second
    refine ⟨override_of_override distinct distinct' first second, fun s null => ?_⟩
    calc c₂.get s
      _ = c₁.get s :=
        get_of_override distinct' second fun v mem => null v (List.mem_append_right _ mem)
      _ = c.get s :=
        get_of_override distinct first fun v mem => null v (List.mem_append_left _ mem)
  · cases accepted : c.override o with
    | error e => rfl
    | ok c₁ => exact override_again distinct accepted
  · intro permuted same c'
    have unique : permuted.Distinct := (same.map Prod.fst).nodup_iff.1 distinct
    exact ⟨override_of_perm distinct same, override_of_perm unique same.symm⟩

/-- A rate is given and then left alone by null, and another one is given as text; the same comes
of both in one, in either order. -/
theorem override_merge_over_null :
    ∃ c₁ c₂, stock.override [("feed_feedrate", .int 90), ("duck_engaged_z", .null)] = .ok c₁ ∧
      c₁.override [("bend_feedrate", .text " 4e3"), ("feed_feedrate", .null)] = .ok c₂ ∧
      stock.override [("feed_feedrate", .int 90), ("duck_engaged_z", .null),
        ("bend_feedrate", .text " 4e3")] = .ok c₂ ∧
      stock.override [("duck_engaged_z", .null), ("bend_feedrate", .text " 4e3"),
        ("feed_feedrate", .int 90)] = .ok c₂ ∧
      c₂.get .pinRaised = stock.get .pinRaised := by
  have accepted : ((stock.override [("feed_feedrate", .int 90), ("duck_engaged_z", .null)]
      ).toOption.any fun c₁ => (c₁.override [("bend_feedrate", .text " 4e3"),
        ("feed_feedrate", .null)]).isOk) = true := by
    decide +kernel
  obtain ⟨c₁, first, accepted⟩ := exists_of_any accepted
  obtain ⟨c₂, second⟩ := exists_of_isOk accepted
  have merged : Overrides.merge [("feed_feedrate", .int 90), ("duck_engaged_z", .null)]
      [("bend_feedrate", .text " 4e3"), ("feed_feedrate", .null)] =
      [("feed_feedrate", .int 90), ("duck_engaged_z", .null), ("bend_feedrate", .text " 4e3")] :=
    rfl
  obtain ⟨once, kept⟩ := (override_merge stock _ _ (by decide) (by decide)).1 c₁ c₂ first second
  rw [merged] at once
  have order : List.Perm ([("feed_feedrate", Value.int 90)] ++ [("duck_engaged_z", .null),
      ("bend_feedrate", .text " 4e3")]) ([("duck_engaged_z", .null),
        ("bend_feedrate", .text " 4e3")] ++ [("feed_feedrate", .int 90)]) :=
    List.perm_append_comm
  refine ⟨c₁, c₂, first, second, once, ?_, kept .pinRaised (by simp [Setting.name])⟩
  exact ((override_merge stock _ [] (by decide) (by decide)).2.2 _ order c₂).1 once

end Settings

end Wireform
