import Mathlib.Data.List.Nodup
import Wireform.Log.Record
import Wireform.Proofs.Refusal
import Wireform.Proofs.Value.RoundTrip

/-!
Lines of a log for programs.

Such a line is the text of an object: the record's own fields, and those of the context in their
place or behind them. A record has one if the calendar has its time and there is room for the lists
in its context.

* `exists_moment_iff`: the times that the calendar has, in seconds since the start of 1970.
* `Context.lookup_push`: the value of a field after others were put over the fields.
* `ofEntries_named`: fields put together one after the other.
* `line_eq_ok_iff`: what the line of a record is, and when there is one.
-/

namespace Wireform.Log

open Text (CodePoint codePoints)

/-! ## Times -/

/-- The first year and the last year of a cycle of 400, by the days since its start. -/
theorem yearOfCycle_cases {day year : Nat} (inside : day < 146097)
    (years : (day - day / 1460 + day / 36524 - day / 146096) / 365 = year) :
    year = 0 ∧ day < 365 ∨ (1 ≤ year ∧ year ≤ 398 ∧ 365 ≤ day ∧ day < 145731) ∨
      year = 399 ∧ 145731 ≤ day := by
  have first : day < 365 ↔ year = 0 := by omega
  have last : 145731 ≤ day ↔ year = 399 := by omega
  have most : year ≤ 399 := by omega
  clear years
  omega

/-- The days of the years 1 to 9999, counted from the first of January 1970. -/
theorem year_ofDays_iff (days : Int) :
    1 ≤ (Date.ofDays days).year ∧ (Date.ofDays days).year ≤ 9999 ↔
      -719162 ≤ days ∧ days ≤ 2932896 := by
  rw [Date.ofDays]
  dsimp only
  rw [Int.fdiv_eq_ediv_of_nonneg _ (by decide), Int.fmod_eq_emod_of_nonneg _ (by decide)]
  have whole := Int.mul_ediv_add_emod (days + 719468) 146097
  have least := Int.emod_nonneg (days + 719468) (b := 146097) (by decide)
  have most := Int.emod_lt_of_pos (days + 719468) (b := 146097) (by decide)
  generalize (days + 719468) / 146097 = cycle at *
  obtain ⟨day, same⟩ := Int.eq_ofNat_of_zero_le least
  rw [same] at whole most ⊢
  rw [Int.toNat_natCast]
  clear least same
  generalize years : (day - day / 1460 + day / 36524 - day / 146096) / 365 = year
  generalize months : (5 * (day - (365 * year + year / 4 - year / 100)) + 2) / 153 = month
  rcases yearOfCycle_cases (Int.ofNat_lt.1 most) years with ⟨rfl, early⟩ | inner | ⟨rfl, late⟩
  · clear years
    split_ifs <;> omega
  · clear years months
    split_ifs <;> omega
  · clear years
    split_ifs <;> omega

/-- The whole seconds since the start of 1970, rounded down, if the time is a finite number. -/
def wholeSeconds? : Binary64 → Option Int
  | .finite negative units _ => some (splitSeconds negative units).1
  | _ => none

theorem exists_momentAt_iff (seconds : Int) (micros : Nat) :
    (∃ m, momentAt seconds micros = .ok m) ↔
      -62135596800 ≤ seconds ∧ seconds < 253402300800 := by
  have days : -719162 ≤ seconds.fdiv 86400 ∧ seconds.fdiv 86400 ≤ 2932896 ↔
      -62135596800 ≤ seconds ∧ seconds < 253402300800 := by
    rw [Int.fdiv_eq_ediv_of_nonneg _ (by decide)]
    omega
  rw [← days, ← year_ofDays_iff, momentAt]
  generalize Date.ofDays (seconds.fdiv 86400) = date
  split_ifs with calendar year
  · rw [maxYears] at calendar
    exact iff_of_false (by rintro ⟨m, ⟨⟩⟩) (by omega)
  · exact iff_of_false (by rintro ⟨m, ⟨⟩⟩) (by omega)
  · exact iff_of_true ⟨_, rfl⟩ (by omega)

/-- The times that a calendar with the years 1 to 9999 has. -/
theorem exists_moment_iff (x : Binary64) :
    (∃ m, moment x = .ok m) ↔
      ∃ s ∈ wholeSeconds? x, -62135596800 ≤ s ∧ s < 253402300800 := by
  cases x with
  | nan => exact iff_of_false (by rintro ⟨m, ⟨⟩⟩) (by rintro ⟨s, ⟨⟩, _⟩)
  | infinite negative => exact iff_of_false (by rintro ⟨m, ⟨⟩⟩) (by rintro ⟨s, ⟨⟩, _⟩)
  | finite negative units _ =>
      rw [moment, wholeSeconds?]
      generalize splitSeconds negative units = parts
      obtain ⟨seconds, micros⟩ := parts
      simp only [Option.mem_some, exists_eq_left']
      split_ifs with beyond
      · rw [maxSeconds] at beyond
        exact iff_of_false (by rintro ⟨m, ⟨⟩⟩) (by omega)
      · exact exists_momentAt_iff seconds micros

/-! ## Fields -/

namespace Context

variable {c : Context}

theorem lookup_cons_eq_ite (f : List CodePoint × Value) (c : Context) (name : List CodePoint) :
    List.lookup name (f :: c) = if name = f.1 then some f.2 else c.lookup name := by
  rw [List.lookup_cons]
  split_ifs with same
  · rw [beq_iff_eq.2 same]
  · rw [beq_eq_false_iff_ne.2 same]

theorem put_cons (f : List CodePoint × Value) (c : Context) (name : List CodePoint) (v : Value) :
    put (f :: c) name v = if f.1 = name then (f.1, v) :: c else f :: c.put name v :=
  rfl

theorem put_ne_nil (c : Context) (name : List CodePoint) (v : Value) : c.put name v ≠ [] := by
  cases c with
  | nil => exact List.cons_ne_nil _ _
  | cons f fs =>
      rw [put_cons]
      split <;> exact List.cons_ne_nil _ _

theorem push_ne_nil (nonempty : c ≠ []) (more : Context) : c.push more ≠ [] := by
  induction more generalizing c with
  | nil => exact nonempty
  | cons f fs ih => exact ih (put_ne_nil c f.1 f.2)

theorem lookup_put (c : Context) (name : List CodePoint) (v : Value) (other : List CodePoint) :
    (c.put name v).lookup other = if other = name then some v else c.lookup other := by
  induction c with
  | nil => exact lookup_cons_eq_ite (name, v) [] other
  | cons f fs ih =>
      rw [put_cons]
      by_cases here : f.1 = name
      · rw [if_pos here, lookup_cons_eq_ite, lookup_cons_eq_ite, here]
        split_ifs <;> rfl
      · rw [if_neg here, lookup_cons_eq_ite, lookup_cons_eq_ite, ih]
        split_ifs with first wanted
        · exact absurd (first.symm.trans wanted) here
        all_goals rfl

/-- Of the fields with one name the one that came last counts. -/
theorem lookup_push (c more : Context) (name : List CodePoint) :
    (c.push more).lookup name = (more.reverse.lookup name).or (c.lookup name) := by
  induction more generalizing c with
  | nil => rfl
  | cons f fs ih =>
      change ((c.put f.1 f.2).push fs).lookup name = _
      rw [ih, lookup_put, List.reverse_cons, List.lookup_append, Option.or_assoc,
        lookup_cons_eq_ite, List.lookup_nil]
      split_ifs <;> rfl

theorem mem_names_put {name : List CodePoint} {v : Value} {other : List CodePoint}
    (mem : other ∈ (c.put name v).map Prod.fst) : other = name ∨ other ∈ c.map Prod.fst := by
  induction c with
  | nil => exact .inl (List.mem_singleton.1 mem)
  | cons f fs ih =>
      rw [put_cons] at mem
      split at mem
      · exact .inr mem
      · rw [List.map_cons, List.mem_cons] at mem ⊢
        rcases mem with first | later
        · exact .inr (.inl first)
        · exact (ih later).imp_right .inr

theorem nodup_put (distinct : (c.map Prod.fst).Nodup) (name : List CodePoint) (v : Value) :
    ((c.put name v).map Prod.fst).Nodup := by
  induction c with
  | nil => exact List.pairwise_singleton _ name
  | cons f fs ih =>
      rw [List.map_cons, List.nodup_cons] at distinct
      rw [put_cons]
      split
      · exact List.nodup_cons.2 distinct
      · next other =>
        refine List.nodup_cons.2 ⟨fun mem => ?_, ih distinct.2⟩
        exact (mem_names_put mem).elim other distinct.1

theorem nodup_push (distinct : (c.map Prod.fst).Nodup) (more : Context) :
    ((c.push more).map Prod.fst).Nodup := by
  induction more generalizing c with
  | nil => exact distinct
  | cons f fs ih => exact ih (nodup_put distinct f.1 f.2)

/-- Under distinct names a field is found wherever it stands. -/
theorem lookup_of_mem (distinct : (c.map Prod.fst).Nodup) {f : List CodePoint × Value}
    (mem : f ∈ c) : c.lookup f.1 = some f.2 := by
  induction c with
  | nil => cases mem
  | cons g fs ih =>
      rw [List.map_cons, List.nodup_cons] at distinct
      rw [lookup_cons_eq_ite]
      rcases List.mem_cons.1 mem with rfl | later
      · rw [if_pos rfl]
      · have other : f.1 ≠ g.1 := fun same => distinct.1 (same ▸ List.mem_map_of_mem later)
        rw [if_neg other, ih distinct.2 later]

theorem mem_of_lookup {name : List CodePoint} {v : Value} (found : c.lookup name = some v) :
    (name, v) ∈ c := by
  induction c with
  | nil => cases found
  | cons f fs ih =>
      rw [lookup_cons_eq_ite] at found
      split at found
      · next same =>
        cases found
        rw [same]
        exact List.mem_cons_self
      · exact List.mem_cons_of_mem f (ih found)

/-- Under distinct names the last field with a name is the first one. -/
theorem lookup_reverse (distinct : (c.map Prod.fst).Nodup) (name : List CodePoint) :
    c.reverse.lookup name = c.lookup name := by
  have distinct' : (c.reverse.map Prod.fst).Nodup := by
    rw [List.map_reverse]
    exact List.nodup_reverse.2 distinct
  refine Option.ext fun v => ⟨fun found => ?_, fun found => ?_⟩
  · exact lookup_of_mem distinct (List.mem_reverse.1 (mem_of_lookup found))
  · exact lookup_of_mem distinct' (List.mem_reverse.2 (mem_of_lookup found))

/-- Where no name has a pair in it, joining pairs comes to joining them in the values. -/
theorem lookup_joinedFields (apart : ∀ f ∈ c, Text.Unpaired f.1) (name : List CodePoint) :
    (Value.joinedFields c).lookup name = (c.lookup name).map Value.joined := by
  induction c with
  | nil => rfl
  | cons f fs ih =>
      rw [List.forall_mem_cons] at apart
      change List.lookup name ((Text.joinPairs f.1, f.2.joined) :: Value.joinedFields fs) = _
      rw [lookup_cons_eq_ite, lookup_cons_eq_ite, ih apart.2, Text.joinPairs_of_isChain apart.1]
      split_ifs <;> rfl

theorem names_joinedFields (apart : ∀ f ∈ c, Text.Unpaired f.1) :
    (Value.joinedFields c).map Prod.fst = c.map Prod.fst := by
  rw [Value.joinedFields, List.map_map]
  exact List.map_congr_left fun f mem => Text.joinPairs_of_isChain (apart f mem)

/-- Fields under distinct names without pairs keep their names when they are put one after the
other. -/
theorem lookup_push_joinedFields (distinct : (c.map Prod.fst).Nodup)
    (apart : ∀ f ∈ c, Text.Unpaired f.1) (name : List CodePoint) :
    (push [] (Value.joinedFields c)).lookup name = (c.lookup name).map Value.joined := by
  have distinct' : ((Value.joinedFields c).map Prod.fst).Nodup := by
    rw [names_joinedFields apart]
    exact distinct
  rw [lookup_push, List.lookup_nil, Option.or_none, lookup_reverse distinct',
    lookup_joinedFields apart]

section Forall

variable {P : List CodePoint × Value → Prop}

theorem forall_mem_put (old : ∀ f ∈ c, P f) {name : List CodePoint} {v : Value}
    (new : P (name, v)) : ∀ f ∈ c.put name v, P f := by
  induction c with
  | nil => exact List.forall_mem_singleton.2 new
  | cons f fs ih =>
      rw [List.forall_mem_cons] at old
      rw [put_cons]
      split
      · next same =>
        rw [same]
        exact List.forall_mem_cons.2 ⟨new, old.2⟩
      · exact List.forall_mem_cons.2 ⟨old.1, ih old.2⟩

theorem forall_mem_push (old : ∀ f ∈ c, P f) {more : Context} (new : ∀ f ∈ more, P f) :
    ∀ f ∈ c.push more, P f := by
  induction more generalizing c with
  | nil => exact old
  | cons f fs ih =>
      rw [List.forall_mem_cons] at new
      exact ih (forall_mem_put old new.1) new.2

end Forall

/-- An entry is put under a text as a field is put under a name. -/
theorem insert_named (c : Context) (name : List CodePoint) (v : Value) :
    Value.insert (Value.named c) (.ofCodePoints name) v = Value.named (c.put name v) := by
  induction c with
  | nil => rfl
  | cons f fs ih =>
      rw [Value.named_cons, Value.insert, put_cons, ih]
      simp only [Value.sameKey_ofCodePoints_iff]
      split <;> rfl

/-- Entries under texts make up the map of the fields put one after the other. -/
theorem ofEntries_named (fields : Context) :
    Value.ofEntries (Value.named fields) = .map (Value.named (push [] fields)) := by
  have grow (front : Context) : (Value.named fields).foldl (fun m e => Value.insert m e.1 e.2)
      (Value.named front) = Value.named (front.push fields) := by
    induction fields generalizing front with
    | nil => rfl
    | cons f fs ih =>
        rw [Value.named_cons, List.foldl_cons, insert_named]
        exact ih _
  exact congrArg Value.map (grow [])

end Context

/-- The fields that a record has of its own. -/
def ownFields (m : Moment) (r : Record) (message : List CodePoint) : Context :=
  [(codePoints "t", .text (longTime m)), (codePoints "lvl", .ofCodePoints r.levelName),
    (codePoints "name", .ofCodePoints r.channel), (codePoints "msg", .ofCodePoints message)]

/-- The value of a field in a line: that of the context, or else the record's own. -/
def field? (context : Context) (m : Moment) (r : Record) (message : List CodePoint)
    (name : List CodePoint) : Option Value :=
  (context.reverse.lookup name).or ((ownFields m r message).lookup name)

/-- There is room for an object around the fields of a context. -/
def Fits (room : Nat) (context : Context) : Prop :=
  0 < room ∧ ∀ name v, context.reverse.lookup name = some v → v.nesting < room

/-! ## The line -/

section Line

variable {context : Context} {r : Record} {m : Moment} {message : List CodePoint} {room : Nat}

theorem fields_eq_push (plain : r.error = none) :
    fields context m r message = (ownFields m r message).push context := by
  rw [fields, plain]
  rfl

theorem nodup_ownFields : ((ownFields m r message).map Prod.fst).Nodup := by
  change [codePoints "t", codePoints "lvl", codePoints "name", codePoints "msg"].Nodup
  decide

theorem simple_ofCodePoints (cs : List CodePoint) : (Value.ofCodePoints cs).Simple := by
  cases text : Text.ofCodePoints? cs with
  | some s =>
      rw [Value.ofCodePoints, text]
      exact .text s
  | none =>
      rw [Value.ofCodePoints, text]
      exact .ragged text

theorem nesting_ofCodePoints (cs : List CodePoint) : (Value.ofCodePoints cs).nesting = 0 := by
  unfold Value.ofCodePoints
  split <;> rfl

theorem forall_mem_ownFields {P : List CodePoint × Value → Prop}
    (time : P (codePoints "t", .text (longTime m)))
    (texts : ∀ name ∈ ["lvl", "name", "msg"], ∀ cs, P (codePoints name, .ofCodePoints cs)) :
    ∀ f ∈ ownFields m r message, P f := by
  simp only [ownFields, List.forall_mem_cons]
  exact ⟨time, texts "lvl" (by decide) _, texts "name" (by decide) _, texts "msg" (by decide) _,
    List.forall_mem_nil _⟩

theorem simple_ownFields : ∀ f ∈ ownFields m r message, f.2.Simple :=
  forall_mem_ownFields (.text _) fun _ _ => simple_ofCodePoints

theorem unpaired_codePoints (s : String) : Text.Unpaired (codePoints s) := by
  unfold codePoints
  induction s.toList with
  | nil => exact List.isChain_nil
  | cons c cs ih =>
      cases cs with
      | nil => exact List.isChain_singleton _
      | cons d ds => exact List.isChain_cons_cons.2 ⟨rfl, ih⟩

theorem unpaired_names : ∀ f ∈ ownFields m r message, Text.Unpaired f.1 :=
  forall_mem_ownFields (unpaired_codePoints _) fun _ _ _ => unpaired_codePoints _

/-- The room that the object of a line takes is that of the context's fields. -/
theorem nesting_push_le_iff :
    (Value.map (Value.named ((ownFields m r message).push context))).nesting ≤ room ↔
      Fits room context := by
  rw [Value.nesting, Fits]
  cases room with
  | zero => exact iff_of_false (Nat.not_succ_le_zero _) fun fits => Nat.lt_irrefl 0 fits.1
  | succ k =>
      rw [Nat.add_le_add_iff_right, Value.nestingEntries_named_le_iff,
        and_iff_right (Nat.succ_pos k)]
      constructor
      · intro fits name v found
        refine Nat.lt_succ_of_le (fits (name, v) (Context.mem_of_lookup ?_))
        rw [Context.lookup_push, found, Option.some_or]
      · intro fits f mem
        have found := Context.lookup_of_mem (Context.nodup_push nodup_ownFields context) mem
        rw [Context.lookup_push, Option.or_eq_some_iff] at found
        rcases found with given | ⟨-, own⟩
        · exact Nat.le_of_lt_succ (fits _ _ given)
        · have flat : ∀ f ∈ ownFields m r message, f.2.nesting = 0 :=
            forall_mem_ownFields rfl fun _ _ => nesting_ofCodePoints
          rw [flat _ (Context.mem_of_lookup own)]
          exact Nat.zero_le k

/-- The line of a record for programs. There is none if the calendar does not have its time, or if
there is no room for the lists in its context. -/
theorem line_eq_ok_iff {layout : Layout} (programs : layout.json = true)
    (wording : r.message = .ok message) (plain : r.error = none)
    (simple : ∀ f ∈ context, f.2.Simple) {line : List CodePoint} :
    layout.line room context r = .ok line ↔ ∃ m, moment r.created = .ok m ∧ Fits room context ∧
      line = codePoints (String.ofList
        (Json.fieldsText ((ownFields m r message).push context))) := by
  have written (m : Moment) {text : String} :
      Context.json room ((ownFields m r message).push context) = .ok text ↔ Fits room context ∧
        String.ofList (Json.fieldsText ((ownFields m r message).push context)) = text := by
    have fits : (Value.map (Value.named ((ownFields m r message).push context))).nesting ≤ room ↔
      Fits room context := nesting_push_le_iff
    change Value.json room (.map (Value.named _)) = _ ↔ _
    rw [Json.json_fields (Context.forall_mem_push simple_ownFields simple), ← fits]
    split
    · next room => rw [and_iff_right room, Except.ok.injEq]
    · next deep => exact iff_of_false nofun fun both => deep both.1
  rw [Layout.line, bind_eq_ok_iff]
  simp only [mapError_eq_ok_iff]
  refine exists_congr fun m => and_congr_right fun _ => ?_
  rw [wording]
  change (if layout.json then ((fields context m r message).json room).mapError .json >>=
    fun text => pure (codePoints text) else _ : Except LineError (List CodePoint)) = _ ↔ _
  rw [if_pos programs, fields_eq_push plain, bind_eq_ok_iff]
  simp only [mapError_eq_ok_iff, written]
  constructor
  · rintro ⟨text, ⟨fits, rfl⟩, same⟩
    cases same
    exact ⟨fits, rfl⟩
  · rintro ⟨fits, rfl⟩
    exact ⟨_, ⟨fits, rfl⟩, rfl⟩

/-- The object that is read back from a line has the fields of the line, in which pairs are joined,
put one after the other. -/
theorem decode_push (simple : ∀ f ∈ context, f.2.Simple) (fits : Fits room context) :
    Json.decode room (String.ofList (Json.fieldsText ((ownFields m r message).push context))) =
      some (.map (Value.named (Context.push []
        (Value.joinedFields ((ownFields m r message).push context))))) := by
  have nonempty : (ownFields m r message).push context ≠ [] :=
    Context.push_ne_nil (List.cons_ne_nil _ _) context
  rw [Json.decode_fields nonempty (Context.forall_mem_push simple_ownFields simple)
    (nesting_push_le_iff.2 fits), Context.ofEntries_named]

/-- A record whose wording can be made and with which no error goes has a line for programs if its
time lies in the years 1 to 9999 and there is room for the lists in its context. The line is
printable ASCII, and reading it gives an object with the fields of the record, those of the context
in the place of the record's own and the later of two in the place of the earlier. Texts, and names
with them, come back as they were if no first half of a pair stands right before a second one; such
a pair comes back as the character that it stands for, and if names become the same so, then the
last of the fields counts. -/
theorem decode_line {layout : Layout} (room : Nat) (programs : layout.json = true)
    (wording : r.message = .ok message) (plain : r.error = none)
    (simple : ∀ f ∈ context, f.2.Simple) :
    ((∃ line, layout.line room context r = .ok line) ↔
      (∃ s ∈ wholeSeconds? r.created, -62135596800 ≤ s ∧ s < 253402300800) ∧
        Fits room context) ∧
    ∀ line, layout.line room context r = .ok line → ∃ m text object,
      moment r.created = .ok m ∧ line = codePoints text ∧ Text.Printable text.toList ∧
      (∀ room', Fits room' context →
        Json.decode room' text = some (.map (Value.named object))) ∧
      (object.map Prod.fst).Nodup ∧
      (∀ name, object.lookup name =
        (Value.joinedFields ((ownFields m r message).push context)).reverse.lookup name) ∧
      ((∀ f ∈ context, Text.Unpaired f.1) →
        ∀ name, object.lookup name = (field? context m r message name).map Value.joined) ∧
      ((∀ f ∈ ownFields m r message ++ context, Text.Unpaired f.1 ∧ f.2.Unpaired) →
        ∀ name, object.lookup name = field? context m r message name) := by
  refine ⟨?_, fun line written => ?_⟩
  · simp only [line_eq_ok_iff programs wording plain simple, ← exists_moment_iff]
    constructor
    · rintro ⟨line, m, time, fits, -⟩
      exact ⟨⟨m, time⟩, fits⟩
    · rintro ⟨⟨m, time⟩, fits⟩
      exact ⟨_, m, time, fits, rfl⟩
  obtain ⟨m, time, -, rfl⟩ := (line_eq_ok_iff programs wording plain simple).1 written
  have field (name : List CodePoint) :
      ((ownFields m r message).push context).lookup name = field? context m r message name :=
    Context.lookup_push _ context name
  have values (apart : ∀ f ∈ context, Text.Unpaired f.1) (name : List CodePoint) :
      (Context.push [] (Value.joinedFields ((ownFields m r message).push context))).lookup name =
        (field? context m r message name).map Value.joined := by
    rw [Context.lookup_push_joinedFields (Context.nodup_push nodup_ownFields context)
      (Context.forall_mem_push unpaired_names apart), field]
  refine ⟨m, _, _, time, rfl, ?_, fun room' fits => decode_push simple fits,
    Context.nodup_push (show (([] : Context).map Prod.fst).Nodup from List.nodup_nil) _,
    fun name => ?_, values, fun apart name => ?_⟩
  · rw [String.toList_ofList]
    exact Json.printable_fields (Context.forall_mem_push simple_ownFields simple)
  · rw [Context.lookup_push, List.lookup_nil, Option.or_none]
  · rw [List.forall_mem_append] at apart
    have all := Context.forall_mem_push (P := fun f => Text.Unpaired f.1 ∧ f.2.Unpaired)
      apart.1 apart.2
    rw [values fun f mem => (apart.2 f mem).1, ← field]
    cases found : ((ownFields m r message).push context).lookup name with
    | none => rfl
    | some v =>
        rw [Option.map_some, Value.joined_of_unpaired (all _ (Context.mem_of_lookup found)).2]

end Line

/-- A field of the context in the place of the wording, half of a pair that stands alone, and just
enough room. -/
theorem decode_line_of_override :
    let r : Record :=
      { channel := codePoints "π\n", level := .info, levelName := [.half 1024],
        template := codePoints "two\nlines", created := .ofInt 1700000000 }
    let context : Context :=
      [(codePoints "msg", .list [.null, .int (-7)]), ([.half 3], .ragged [.half 5])]
    r.message = .ok (codePoints "two\nlines") ∧ (∀ f ∈ context, f.2.Simple) ∧ Fits 2 context ∧
    ∃ text object, Layout.line { json := true } 2 context r = .ok (codePoints text) ∧
      Text.Printable text.toList ∧ Json.decode 2 text = some (.map (Value.named object)) ∧
      object.lookup (codePoints "name") = some (.text "π\n") ∧
      object.lookup (codePoints "lvl") = some (.ragged [.half 1024]) ∧
      object.lookup (codePoints "msg") = some (.list [.null, .int (-7)]) ∧
      object.lookup [.half 3] = some (.ragged [.half 5]) ∧
      object.lookup (codePoints "exc") = none := by
  intro r context
  have wording : r.message = .ok (codePoints "two\nlines") := rfl
  have short : (Binary64.digits (-7 : Int).natAbs).length ≤ Value.maxDigits := by decide +kernel
  have simple : ∀ f ∈ context, f.2.Simple :=
    List.forall_mem_cons.2 ⟨.list (List.forall_mem_cons.2 ⟨.null, List.forall_mem_cons.2
      ⟨.int short, List.forall_mem_nil _⟩⟩), List.forall_mem_cons.2
        ⟨.ragged rfl, List.forall_mem_nil _⟩⟩
  have shallow : ∀ f ∈ context, f.2.nesting < 2 := by decide
  have fits : Fits 2 context :=
    ⟨by decide, fun name v found => shallow _ (List.mem_reverse.1 (Context.mem_of_lookup found))⟩
  have programs : ({ json := true } : Layout).json = true := rfl
  have law := decode_line 2 programs wording rfl simple
  have seconds : wholeSeconds? r.created = some 1700000000 := by decide +kernel
  obtain ⟨line, written⟩ := law.1.2 ⟨⟨1700000000, seconds, by decide, by decide⟩, fits⟩
  obtain ⟨m, text, object, -, rfl, printable, decoded, -, -, -, found⟩ := law.2 line written
  have apart : ∀ f ∈ ownFields m r (codePoints "two\nlines") ++ context,
      Text.Unpaired f.1 ∧ f.2.Unpaired := by
    simp only [ownFields, context, r, List.forall_mem_append, List.forall_mem_cons,
      Value.ofCodePoints_codePoints]
    exact ⟨⟨⟨unpaired_codePoints _, .text _⟩,
      ⟨unpaired_codePoints _, .ragged rfl (List.isChain_singleton _)⟩,
      ⟨unpaired_codePoints _, .text _⟩, ⟨unpaired_codePoints _, .text _⟩, List.forall_mem_nil _⟩,
      ⟨unpaired_codePoints _, .list (List.forall_mem_cons.2 ⟨.null, List.forall_mem_cons.2
        ⟨.int _, List.forall_mem_nil _⟩⟩)⟩,
      ⟨List.isChain_singleton _, .ragged rfl (List.isChain_singleton _)⟩, List.forall_mem_nil _⟩
  exact ⟨wording, simple, fits, text, object, written, printable, decoded 2 fits,
    found apart (codePoints "name"), found apart (codePoints "lvl"),
    found apart (codePoints "msg"), found apart [.half 3], found apart (codePoints "exc")⟩

/-- A record of the year 10000 has no line, and none has one for lists that take up all the room. Of
a wording that is made up of the two halves of a pair the character comes back for which they
stand. -/
theorem line_refused_or_pair_joined :
    let late : Record :=
      { channel := codePoints "n", level := .info, template := codePoints "hi",
        created := .ofInt 253402300800 }
    let split : Record :=
      { channel := codePoints "n", level := .info, template := codePoints "%c%c",
        args := [.int 0xd800, .int 0xdc00], created := .ofInt 0 }
    late.message = .ok (codePoints "hi") ∧
    (∀ room line, Layout.line { json := true } room [] late ≠ .ok line) ∧
    (∀ room deep line, room ≤ deep.nesting → deep.Simple →
      Layout.line { json := true } room [(codePoints "deep", deep)] split ≠ .ok line) ∧
    split.message = .ok [.half 0, .half 1024] ∧
    ∃ m text object, moment split.created = .ok m ∧
      Layout.line { json := true } 1 [] split = .ok (codePoints text) ∧
      Json.decode 1 text = some (.map (Value.named object)) ∧
      field? [] m split [.half 0, .half 1024] (codePoints "msg") =
        some (.ragged [.half 0, .half 1024]) ∧
      object.lookup (codePoints "msg") = some (.text "𐀀") := by
  intro late split
  have programs : ({ json := true } : Layout).json = true := rfl
  have hi : late.message = .ok (codePoints "hi") := rfl
  have pair : split.message = .ok [.half 0, .half 1024] := by
    obtain ⟨ps, wording, same⟩ := exists_of_any
      (show split.message.toOption.any (· == [.half 0, .half 1024]) = true by decide +kernel)
    rw [wording, eq_of_beq same]
  have none : ∀ f ∈ ([] : Context), f.2.Simple := List.forall_mem_nil _
  refine ⟨hi, fun room line written => ?_, fun room deep line full simple written => ?_, pair, ?_⟩
  · obtain ⟨m, time, -⟩ := (line_eq_ok_iff programs hi rfl none).1 written
    obtain ⟨s, seconds, -, before⟩ := (exists_moment_iff _).1 ⟨m, time⟩
    have start : wholeSeconds? late.created = some 253402300800 := by decide +kernel
    obtain rfl : 253402300800 = s := Option.some.inj (start.symm.trans seconds)
    exact absurd before (by decide)
  · have each : ∀ f ∈ [(codePoints "deep", deep)], f.2.Simple :=
      List.forall_mem_cons.2 ⟨simple, List.forall_mem_nil _⟩
    obtain ⟨m, -, fits, -⟩ := (line_eq_ok_iff programs pair rfl each).1 written
    exact absurd (fits.2 (codePoints "deep") deep rfl) (Nat.not_lt.2 full)
  · have start : wholeSeconds? split.created = some 0 := by decide +kernel
    obtain ⟨m, time⟩ := (exists_moment_iff _).2 ⟨0, start, by decide, by decide⟩
    have fits : Fits 1 [] := ⟨by decide, nofun⟩
    exact ⟨m, _, _, time, (line_eq_ok_iff programs pair rfl none).2 ⟨m, time, fits, rfl⟩,
      decode_push none fits, rfl, rfl⟩

end Wireform.Log
