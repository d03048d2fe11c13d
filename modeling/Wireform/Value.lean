import Wireform.Binary64.Digits
import Wireform.Binary64.Reading
import Wireform.Calendar
import Wireform.Text.Quoted

/-!
Values without a fixed type: what a settings document holds, what an override may carry, and what
log records are given. A map keeps its entries in the order in which their keys first came up.
-/

namespace Wireform

/-- A value of any kind. -/
inductive Value where
  | null
  | bool (b : Bool)
  | int (n : Int)
  | number (x : Binary64)
  | text (s : String)
  /-- A text with halves of surrogate pairs in it. -/
  | ragged (cs : List Text.CodePoint)
  | bytes (b : List UInt8)
  | date (d : Date)
  | moment (m : Moment)
  | list (items : List Value)
  | pair (first second : Value)
  | map (entries : List (Value × Value))
  | set (items : List Value)
  deriving Inhabited

/-- Why a value is not taken for a number. -/
inductive NumberError where
  /-- A text that is not the text of a number, as messages show it. -/
  | unreadable (shown : String)
  /-- A value of a kind that is never a number. -/
  | wrongKind (kind : String)
  /-- A whole number beyond the range of double precision. -/
  | tooLarge
  deriving DecidableEq

/-- The error in words. -/
def NumberError.message : NumberError → String
  | .unreadable shown => "could not convert string to float: " ++ shown
  | .wrongKind kind => "float() argument must be a string or a real number, not '" ++ kind ++ "'"
  | .tooLarge => "int too large to convert to float"

/-- The double-precision number closest to a whole number, unless that is out of range. -/
def Binary64.ofInt? (n : Int) : Option Binary64 :=
  if (Binary64.ofInt n).isFinite then some (Binary64.ofInt n) else none

namespace Value

/-- The text with some code points. -/
def ofCodePoints (cs : List Text.CodePoint) : Value :=
  match Text.ofCodePoints? cs with
  | some s => .text s
  | none => .ragged cs

/-- The short name of a value's kind. -/
def kind : Value → String
  | .null => "NoneType"
  | .bool _ => "bool"
  | .int _ => "int"
  | .number _ => "float"
  | .text _ | .ragged _ => "str"
  | .bytes _ => "bytes"
  | .date _ => "date"
  | .moment _ => "datetime"
  | .list _ => "list"
  | .pair _ _ => "tuple"
  | .map _ => "dict"
  | .set _ => "set"

/-- The full name of a value's kind. -/
def fullKind : Value → String
  | .date _ => "datetime.date"
  | .moment _ => "datetime.datetime"
  | v => v.kind

/-- The number that a value stands for. Truth values count as one and zero, and texts as what they
spell. -/
def toNumber : Value → Except NumberError Binary64
  | .bool b => .ok (Binary64.ofInt (if b then 1 else 0))
  | .int n => match Binary64.ofInt? n with
    | some x => .ok x
    | none => .error .tooLarge
  | .number x => .ok x
  | .text s => match Binary64.ofText? s with
    | some x => .ok x
    | none => .error (.unreadable (Text.quoted s))
  | .ragged cs => .error (.unreadable (Text.quotedCodes cs))
  | .bytes b =>
    let cs := b.map fun c => Char.ofNat c.toNat
    match if cs.all (·.toNat < 0x80) then Binary64.ofChars? cs else none with
    | some x => .ok x
    | none => .error (.unreadable (Text.quotedBytes b))
  | v => .error (.wrongKind v.fullKind)

/-- Is the value one that counts as absent: null, false, zero, or empty? -/
def isVacant : Value → Bool
  | .null => true
  | .bool b => !b
  | .int n => n == 0
  | .number x => x.isZero
  | .text s => s.isEmpty
  | .bytes b => b.isEmpty
  | .list items => items.isEmpty
  | .map entries => entries.isEmpty
  | .set items => items.isEmpty
  | _ => false

/-- The whole number that a truth value or whole number stands for. -/
def toInt? : Value → Option Int
  | .bool b => some (if b then 1 else 0)
  | .int n => some n
  | _ => none

/-- Does a double-precision number have exactly the value of a whole number? -/
def numberIsInt : Binary64 → Int → Bool
  | .finite negative units _, n => Binary64.signed negative units == n * Binary64.one
  | _, _ => false

/-- Are two values the same key of a map? Numbers are compared by value, whatever their kind, so
that an undefined number is no other key. Collections are never keys. -/
def sameKey : Value → Value → Bool
  | .null, .null => true
  | .text a, .text b => a == b
  | .ragged a, .ragged b => a == b
  | .bytes a, .bytes b => a == b
  | .date a, .date b => a == b
  | .moment a, .moment b => a.same b
  | .number x, .number y => x.sameValue y
  | .number x, v => (v.toInt?.map (numberIsInt x)).getD false
  | v, .number y => (v.toInt?.map (numberIsInt y)).getD false
  | v, w => match v.toInt?, w.toInt? with
    | some m, some n => m == n
    | _, _ => false

/-- The entries with a value put under a key. A key that is there keeps its place and spelling. -/
def insert (entries : List (Value × Value)) (key value : Value) : List (Value × Value) :=
  match entries with
  | [] => [(key, value)]
  | (k, v) :: rest => if k.sameKey key then (k, value) :: rest else (k, v) :: insert rest key value

/-- The value under a text key. -/
def get? (entries : List (Value × Value)) (name : String) : Option Value :=
  (entries.find? fun e => e.1.sameKey (.text name)).map (·.2)

/-- The map of a row of entries, in which a later value for a key replaces an earlier one. -/
def ofEntries (entries : List (Value × Value)) : Value :=
  .map (entries.foldl (fun m e => insert m e.1 e.2) [])

/-- Two digits or more. -/
def twoDigits (n : Nat) : String :=
  String.ofList (Binary64.paddedDigits 2 n)

/-- A date as year, month and day. -/
def dateText (d : Date) : String :=
  toString d.year ++ "-" ++ twoDigits d.month ++ "-" ++ twoDigits d.day

mutual

/-- The value as messages show it: texts between quotes, collections between brackets. -/
def shown : Value → String
  | .null => "None"
  | .bool b => if b then "True" else "False"
  | .int n => toString n
  | .number x => x.text
  | .text s => Text.quoted s
  | .ragged cs => Text.quotedCodes cs
  | .bytes b => Text.quotedBytes b
  | .date d => dateText d
  | .moment m =>
    dateText m.date ++ " " ++ twoDigits m.time.hour ++ ":" ++ twoDigits m.time.minute ++ ":" ++
      twoDigits m.time.second
  | .list items => "[" ++ ", ".intercalate (shownItems items) ++ "]"
  | .pair a b => "(" ++ shown a ++ ", " ++ shown b ++ ")"
  | .map entries => "\x7b" ++ ", ".intercalate (shownEntries entries) ++ "\x7d"
  | .set items => "\x7b" ++ ", ".intercalate (shownItems items) ++ "\x7d"

/-- The items of a collection as messages show them. -/
def shownItems : List Value → List String
  | [] => []
  | v :: vs => shown v :: shownItems vs

/-- The entries of a map as messages show them. -/
def shownEntries : List (Value × Value) → List String
  | [] => []
  | (k, v) :: es => (shown k ++ ": " ++ shown v) :: shownEntries es

end

/-- The value as plain output shows it: a text as it is, anything else as in messages. -/
def plain : Value → List Text.CodePoint
  | .text s => Text.codePoints s
  | .ragged cs => cs
  | v => Text.codePoints v.shown

end Value

end Wireform
