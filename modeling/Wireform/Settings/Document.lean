import Wireform.Compiler
import Wireform.Document.File

/-!
Settings from a document. It has three sections, each of them a mapping from names to numbers; what
is left out has its stock value, and what is not known does not matter.
-/

namespace Wireform

/-- The section of the document that a setting is in. -/
def Setting.sectionName : Setting → String
  | .feedRate | .bendRate => "feedrates"
  | .positiveClearance | .negativeClearance => "clearances"
  | .pinRaised | .pinLowered => "duck"

/-- The name of a setting within its section. -/
def Setting.key : Setting → String
  | .feedRate => "feed"
  | .bendRate => "bend"
  | .positiveClearance => "positive"
  | .negativeClearance => "negative"
  | .pinRaised => "engaged_z"
  | .pinLowered => "released_z"

namespace Settings

/-- Why no settings can be had from a file. -/
inductive LoadError where
  | missing (path : String)
  | file (e : Document.FileError)
  | empty (path : String)
  | notMapping (path : String)
  | section (name kind : String)
  | value (e : NumberError)
  | invalid (e : SettingsError)
  deriving DecidableEq

/-- The error in words. -/
def LoadError.message : LoadError → String
  | .missing path => "Configuration file not found: " ++ path
  | .file (.malformed path) =>
    "Malformed configuration file: " ++ (Document.FileError.malformed path).message
  | .file e => e.message
  | .empty path => "Empty configuration file: " ++ path
  | .notMapping path => "Configuration root must be a mapping: " ++ path
  | .section name kind => "Section '" ++ name ++ "' must be a mapping, got " ++ kind
  | .value .tooLarge => NumberError.tooLarge.message
  | .value e => "Invalid configuration value: " ++ e.message
  | .invalid e => e.message

/-- The entries of a section, none if it is left out. -/
def sectionOf (entries : List (Value × Value)) (name : String) :
    Except LoadError (List (Value × Value)) :=
  match Value.get? entries name with
  | none => .ok []
  | some v =>
    if v.isVacant then .ok []
    else
      match v with
      | .map es => .ok es
      | _ => .error (.section name v.kind)

/-- The settings with one read from its section, if it is there. -/
def readSetting (sections : String → List (Value × Value)) (c : Settings) (s : Setting) :
    Except LoadError Settings :=
  match Value.get? (sections s.sectionName) s.key with
  | none => .ok c
  | some v =>
    match v.toNumber with
    | .ok x => .ok (c.set s x)
    | .error e => .error (.value e)

/-- The settings in the entries of a document. -/
def ofEntries (entries : List (Value × Value)) : Except LoadError Settings := do
  let feeds ← sectionOf entries "feedrates"
  let clearances ← sectionOf entries "clearances"
  let duck ← sectionOf entries "duck"
  let sections (name : String) : List (Value × Value) :=
    if name = "feedrates" then feeds else if name = "clearances" then clearances else duck
  let c ← Setting.all.foldlM (readSetting sections) stock
  (c.validate).mapError .invalid

/-- The settings in the value of a document. -/
def ofValue (path : String) : Value → Except LoadError Settings
  | .null => .error (.empty path)
  | .map entries => ofEntries entries
  | _ => .error (.notMapping path)

/-- The settings in the bytes of a document; `path` is where they are from. -/
def ofBytes (path : String) (bytes : List UInt8) : Except LoadError Settings := do
  ofValue path (← (Document.ofBytes path bytes).mapError .file)

/-- The settings in a file. -/
def ofFile (t : Storage.Tree) (p : Storage.Path) : Except LoadError Settings := do
  ofValue p.text (← (Document.ofFile t p).mapError .file)

/-- Settings that have been read, with what is reported at the end. -/
def loaded (outcome : Except LoadError Settings) : Report LoadError Settings :=
  match outcome with
  | .ok c => ⟨c.notices ++ [.settingsLoaded], .ok c⟩
  | .error e => ⟨[], .error e⟩

/-- The name under which the document with the stock settings is reported. -/
def stockName : String :=
  "<DEFAULT_CONFIG>"

/-- The lines of the document with the stock settings. -/
def stockLines : List String :=
  ["# Wire bender machine configuration.",
    "#",
    "# Axis mapping:",
    "#   X -- bend axis (degrees), also used for clearance positions",
    "#   Y -- wire feed axis (machine units, relative moves)",
    "#   Z -- duck pin (raised before the bend head changes side)",
    "#",
    "# Feed rates are emitted verbatim as the G-code F parameter.",
    "",
    "feedrates:",
    "  feed: 360          # wire feed moves (G1 Y...)",
    "  bend: 6000         # bend moves (G1 X...)",
    "",
    "clearances:",
    "  positive: -82      # X position clearing the wire on the positive side",
    "  negative: -122     # X position clearing the wire on the negative side",
    "",
    "duck:",
    "  engaged_z: 180     # pin raised, head may cross the wire",
    "  released_z: 0      # pin lowered, ready to bend"]

/-- The document with the stock settings, as it is stored. -/
def stockBytes : List UInt8 :=
  stockLines.flatMap fun line => Text.encode (line ++ "\n")

/-- The text under which a source of settings is reported: a file, or else the stock document. -/
def sourceName : Option Storage.Path → String
  | some p => p.text
  | none => stockName

/-- Are there settings to be read? -/
def locate (t : Storage.Tree) : Option Storage.Path → Except LoadError Unit
  | none => .ok ()
  | some p =>
    match t.contains p with
    | .ok true => .ok ()
    | .ok false => .error (.missing p.text)
    | .error e => .error (.file (.storage e))

/-- The settings that are there. -/
def fetch (t : Storage.Tree) : Option Storage.Path → Except LoadError Settings
  | none => ofBytes stockName stockBytes
  | some p => ofFile t p

/-- Reads settings from a file, or from the stock document, with what is reported on the way. -/
def load (t : Storage.Tree) (source : Option Storage.Path) : Report LoadError Settings :=
  match locate t source with
  | .error e => ⟨[], .error e⟩
  | .ok () =>
    let r := loaded (fetch t source)
    ⟨.loadingSettings (sourceName source) :: r.notices, r.outcome⟩

end Settings

end Wireform
