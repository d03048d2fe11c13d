import Wireform.Value

/-!
Values as JSON text on one line, in ASCII alone: every other character is written as an escape, or
as two if it needs more than 16 bits. Not every value has such a text: there are kinds without a
form in JSON, numbers of too many digits, and collections too deep inside each other.
-/

namespace Wireform

/-- The escape for a number of 16 bits. -/
def Text.unitEscape (n : Nat) : List Char :=
  '\\' :: 'u' :: Text.hex 4 n

/-- One character of a JSON text. -/
def Text.jsonChar (c : Char) : List Char :=
  if c = '"' then ['\\', '"']
  else if c = '\\' then ['\\', '\\']
  else if c = '\n' then ['\\', 'n']
  else if c = '\r' then ['\\', 'r']
  else if c = '\t' then ['\\', 't']
  else if c = '\x0c' then ['\\', 'f']
  else if c = '\x08' then ['\\', 'b']
  else if ' ' ≤ c ∧ c ≤ '~' then [c]
  else if c.toNat < 0x10000 then unitEscape c.toNat
  else
    let n := c.toNat - 0x10000
    unitEscape (0xd800 + n / 0x400) ++ unitEscape (0xdc00 + n % 0x400)

/-- A text between quotes. -/
def Text.json (s : String) : String :=
  String.ofList ('"' :: s.toList.flatMap Text.jsonChar ++ ['"'])

/-- Code points between quotes. -/
def Text.jsonCodes (cs : List Text.CodePoint) : String :=
  let written := cs.flatMap fun
    | .char c => Text.jsonChar c
    | .half n => unitEscape (firstHalf + n)
  String.ofList ('"' :: written ++ ['"'])

/-- A number; those that are not finite are written as words. -/
def Binary64.json : Binary64 → String
  | .nan => "NaN"
  | .infinite negative => if negative then "-Infinity" else "Infinity"
  | x => x.text

/-- Why a value has no JSON text. -/
inductive JsonError where
  | tooDeep
  | tooManyDigits
  | unsupported (kind : String)
  | unsupportedKey (kind : String)
  deriving DecidableEq

/-- The error in words. -/
def JsonError.message : JsonError → String
  | .tooDeep => "maximum recursion depth exceeded while encoding a JSON object"
  | .tooManyDigits =>
    "Exceeds the limit (4300 digits) for integer string conversion; use " ++
      "sys.set_int_max_str_digits() to increase the limit"
  | .unsupported kind => "Object of type " ++ kind ++ " is not JSON serializable"
  | .unsupportedKey kind => "keys must be str, int, float, bool or None, not " ++ kind

namespace Value

/-- The most digits that a whole number is written with. -/
def maxDigits : Nat := 4300

/-- A whole number. -/
def jsonInt (n : Int) : Except JsonError String :=
  if maxDigits < (Binary64.digits n.natAbs).length then .error .tooManyDigits
  else .ok (toString n)

/-- A key, which is a text whatever it was. -/
def jsonKey : Value → Except JsonError String
  | .text s => .ok (Text.json s)
  | .ragged cs => .ok (Text.jsonCodes cs)
  | .null => .ok (Text.json "null")
  | .bool b => .ok (Text.json (if b then "true" else "false"))
  | .number x => .ok (Text.json x.json)
  | .int n => (jsonInt n).map Text.json
  | v => .error (.unsupportedKey v.kind)

mutual

/-- The value as JSON text; `room` is how many collections may be inside each other. -/
def json (room : Nat) : Value → Except JsonError String
  | .null => .ok "null"
  | .bool b => .ok (if b then "true" else "false")
  | .int n => jsonInt n
  | .number x => .ok x.json
  | .text s => .ok (Text.json s)
  | .ragged cs => .ok (Text.jsonCodes cs)
  | .list items =>
    if room = 0 then .error .tooDeep
    else (jsonItems (room - 1) items).map fun ts => "[" ++ ", ".intercalate ts ++ "]"
  | .pair a b =>
    if room = 0 then .error .tooDeep
    else do
      let first ← json (room - 1) a
      let second ← json (room - 1) b
      return "[" ++ first ++ ", " ++ second ++ "]"
  | .map entries =>
    if room = 0 then .error .tooDeep
    else (jsonEntries (room - 1) entries).map fun ts => "\x7b" ++ ", ".intercalate ts ++ "\x7d"
  | .set _ => .error (.unsupported "set")
  | .bytes _ => .error (.unsupported "bytes")
  | .date _ => .error (.unsupported "date")
  | .moment _ => .error (.unsupported "datetime")

/-- The items of a collection as JSON text. -/
def jsonItems (room : Nat) : List Value → Except JsonError (List String)
  | [] => .ok []
  | v :: vs => do
    let first ← json room v
    let rest ← jsonItems room vs
    return first :: rest

/-- The entries of a map as JSON text. -/
def jsonEntries (room : Nat) : List (Value × Value) → Except JsonError (List String)
  | [] => .ok []
  | (k, v) :: es => do
    let key ← jsonKey k
    let value ← json room v
    let rest ← jsonEntries room es
    return (key ++ ": " ++ value) :: rest

end

end Value

end Wireform
