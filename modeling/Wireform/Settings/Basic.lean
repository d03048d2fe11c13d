import Wireform.Notice
import Wireform.Value

/-!
Machine settings: the six numbers that G-code depends on, when they are valid, and how some of
them are replaced. Settings are valid if all six are finite and both feed rates are positive.
-/

namespace Wireform

/-- One of the settings. -/
inductive Setting where
  | feedRate
  | bendRate
  | positiveClearance
  | negativeClearance
  | pinRaised
  | pinLowered
  deriving DecidableEq

namespace Setting

/-- All settings, in the order in which they are checked. -/
def all : List Setting :=
  [.feedRate, .bendRate, .positiveClearance, .negativeClearance, .pinRaised, .pinLowered]

/-- The name of a setting. -/
def name : Setting → String
  | .feedRate => "feed_feedrate"
  | .bendRate => "bend_feedrate"
  | .positiveClearance => "positive_bend_clearance"
  | .negativeClearance => "negative_bend_clearance"
  | .pinRaised => "duck_engaged_z"
  | .pinLowered => "duck_released_z"

/-- The setting with a given name. -/
def ofName? (name : String) : Option Setting :=
  all.find? fun s => s.name == name

theorem ofName?_name (s : Setting) : ofName? s.name = some s := by
  cases s <;> decide

end Setting

/-- The settings of a machine. -/
structure Settings where
  /-- Rate of the moves that advance the wire. -/
  feedRate : Binary64
  /-- Rate of the moves that bend. -/
  bendRate : Binary64
  /-- Where the head clears the wire on the positive side. -/
  positiveClearance : Binary64
  /-- Where the head clears the wire on the negative side. -/
  negativeClearance : Binary64
  /-- Where the pin is when it is raised, so that the head can change sides. -/
  pinRaised : Binary64
  /-- Where the pin is when it is lowered, ready to bend. -/
  pinLowered : Binary64
  deriving DecidableEq

/-- Why settings are refused. -/
inductive SettingsError where
  /-- A name that the action itself has taken for something else. -/
  | takenName (action name : String)
  | unknownNames (names : List String)
  | notNumeric (name : String) (value : String)
  | notFinite (setting : Setting) (value : Binary64)
  | notPositive (setting : Setting) (value : Binary64)
  /-- A whole number beyond the range of double precision. -/
  | tooLarge
  deriving DecidableEq

/-- The refusal in words. -/
def SettingsError.message : SettingsError → String
  | .takenName action name => action ++ "() got multiple values for argument '" ++ name ++ "'"
  | .unknownNames names => "Unknown configuration option(s): " ++ ", ".intercalate names
  | .notNumeric name value => name ++ " must be numeric, got " ++ value
  | .notFinite setting value => setting.name ++ " must be finite, got " ++ value.text
  | .notPositive setting value => setting.name ++ " must be > 0, got " ++ value.text
  | .tooLarge => NumberError.tooLarge.message

namespace Settings

/-- The settings of the stock machine. -/
def stock : Settings where
  feedRate := .ofInt 360
  bendRate := .ofInt 6000
  positiveClearance := .ofInt (-82)
  negativeClearance := .ofInt (-122)
  pinRaised := .ofInt 180
  pinLowered := .ofInt 0

instance : Inhabited Settings := ⟨stock⟩

/-- The value of one setting. -/
def get (c : Settings) : Setting → Binary64
  | .feedRate => c.feedRate
  | .bendRate => c.bendRate
  | .positiveClearance => c.positiveClearance
  | .negativeClearance => c.negativeClearance
  | .pinRaised => c.pinRaised
  | .pinLowered => c.pinLowered

/-- The settings with one of them replaced. -/
def set (c : Settings) (s : Setting) (x : Binary64) : Settings :=
  match s with
  | .feedRate => { c with feedRate := x }
  | .bendRate => { c with bendRate := x }
  | .positiveClearance => { c with positiveClearance := x }
  | .negativeClearance => { c with negativeClearance := x }
  | .pinRaised => { c with pinRaised := x }
  | .pinLowered => { c with pinLowered := x }

theorem get_set (c : Settings) (s t : Setting) (x : Binary64) :
    (c.set s x).get t = if t = s then x else c.get t := by
  cases s <;> cases t <;> rfl

/-- Where the head clears the wire on the side of an angle; zero is on the negative side. -/
def clearanceFor (c : Settings) (angle : Binary64) : Binary64 :=
  if angle.isAtMostZero then c.negativeClearance else c.positiveClearance

/-- All six values are finite and both feed rates are positive. -/
def Valid (c : Settings) : Prop :=
  (∀ s, (c.get s).isFinite) ∧ c.feedRate.isPositive ∧ c.bendRate.isPositive

/-- What is wrong with the settings, if anything: the first value that is not finite, then a feed
rate that is not positive. -/
def firstError? (c : Settings) : Option SettingsError :=
  match Setting.all.find? fun s => !(c.get s).isFinite with
  | some s => some (.notFinite s (c.get s))
  | none =>
    if c.feedRate.isAtMostZero then some (.notPositive .feedRate c.feedRate)
    else if c.bendRate.isAtMostZero then some (.notPositive .bendRate c.bendRate)
    else none

/-- Passes valid settings on and refuses others. -/
def validate (c : Settings) : Except SettingsError Settings :=
  match c.firstError? with
  | some e => .error e
  | none => .ok c

/-- What is reported of settings that were found valid. -/
def notices (c : Settings) : List Notice :=
  if c.positiveClearance.sameValue c.negativeClearance then [.equalClearances c.positiveClearance]
  else []

/-- Values given for settings by name, in the order given, each name at most once. -/
abbrev Overrides := List (String × Value)

/-- The names that are not those of settings, in order. -/
def unknownNames (o : Overrides) : List String :=
  ((o.map (·.1)).filter fun n => (Setting.ofName? n).isNone).mergeSort fun a b => !(b < a)

/-- The settings with one value put in by name; null leaves all as it is. -/
def put (c : Settings) (name : String) (value : Value) : Except SettingsError Settings :=
  match value with
  | .null => .ok c
  | _ =>
    match value.toNumber with
    | .ok x => .ok ((Setting.ofName? name).elim c fun s => c.set s x)
    | .error .tooLarge => .error .tooLarge
    | .error _ => .error (.notNumeric name value.shown)

/-- The settings with values put in one after the other. -/
def putAll (c : Settings) : Overrides → Except SettingsError Settings
  | [] => .ok c
  | (name, value) :: rest =>
    match c.put name value with
    | .error e => .error e
    | .ok c' => putAll c' rest

/-- Refuses values under a name that an action has taken for something else. -/
def checkTaken (action : String) (taken : List String) (o : Overrides) :
    Except SettingsError Unit :=
  match o.find? fun e => taken.contains e.1 with
  | some (name, _) => .error (.takenName action name)
  | none => .ok ()

/-- The settings with some replaced, which have to be valid then. -/
def override (c : Settings) (o : Overrides) : Except SettingsError Settings :=
  match checkTaken "BenderConfig.with_overrides" ["self"] o with
  | .error e => .error e
  | .ok () =>
    match unknownNames o with
    | [] =>
      match c.putAll o with
      | .error e => .error e
      | .ok c' => c'.validate
    | names => .error (.unknownNames names)

end Settings

end Wireform
