import Wireform.Text.Quoted

/-!
Text as bytes. Reading bytes as UTF-8 says exactly which bytes are at fault; writing text in a
smaller character set says which characters it lacks.
-/

namespace Wireform.Text

/-- What is wrong with bytes that are no UTF-8. -/
inductive Utf8Fault where
  | start
  | continuation
  | truncated
  deriving DecidableEq

/-- Bytes that cannot be read: the first one at fault, how many are, and where they are. -/
structure DecodeError where
  byte : UInt8
  size : Nat
  position : Nat
  fault : Utf8Fault
  deriving DecidableEq

/-- The fault in words. -/
def Utf8Fault.message : Utf8Fault → String
  | .start => "invalid start byte"
  | .continuation => "invalid continuation byte"
  | .truncated => "unexpected end of data"

/-- The error in words. -/
def DecodeError.message (e : DecodeError) : String :=
  "'utf-8' codec can't decode " ++
    (if e.size = 1 then
      "byte 0x" ++ String.ofList (hex 2 e.byte.toNat) ++ " in position " ++ toString e.position
    else
      "bytes in position " ++ toString e.position ++ "-" ++ toString (e.position + e.size - 1)) ++
    ": " ++ e.fault.message

/-- Can the byte stand inside a character? -/
def isContinuation (b : UInt8) : Bool :=
  0x80 ≤ b && b < 0xc0

/-- Can the second byte follow the first one? This leaves out overlong forms, surrogates and codes
beyond the last. -/
def followsLead (lead second : UInt8) : Bool :=
  isContinuation second &&
    (lead != 0xe0 || 0xa0 ≤ second) && (lead != 0xed || second < 0xa0) &&
    (lead != 0xf0 || 0x90 ≤ second) && (lead != 0xf4 || second < 0x90)

/-- The payload of a continuation byte. -/
def payload (b : UInt8) : Nat :=
  b.toNat % 64

/-- One character at the front of the bytes and how many bytes it takes; or what is wrong and how
many bytes are at fault. -/
def decodeChar (lead : UInt8) (rest : List UInt8) : Except (Utf8Fault × Nat) (Char × Nat) :=
  if lead < 0x80 then .ok (Char.ofNat lead.toNat, 1)
  else if lead < 0xc2 || 0xf5 ≤ lead then .error (.start, 1)
  else
    match rest with
    | [] => .error (.truncated, 1)
    | b :: rest =>
      if !followsLead lead b then .error (.continuation, 1)
      else if lead < 0xe0 then .ok (Char.ofNat (lead.toNat % 32 * 64 + payload b), 2)
      else
        match rest with
        | [] => .error (.truncated, 2)
        | c :: rest =>
          if !isContinuation c then .error (.continuation, 2)
          else if lead < 0xf0 then
            .ok (Char.ofNat ((lead.toNat % 16 * 64 + payload b) * 64 + payload c), 3)
          else
            match rest with
            | [] => .error (.truncated, 3)
            | d :: _ =>
              if !isContinuation d then .error (.continuation, 3)
              else
                .ok (Char.ofNat
                  (((lead.toNat % 8 * 64 + payload b) * 64 + payload c) * 64 + payload d), 4)

/-- Do the bytes end before it shows what they stand for? The beginning of a surrogate counts as
such, although no character begins like that. -/
def endsEarly (lead : UInt8) (rest : List UInt8) (fault : Utf8Fault) : Bool :=
  fault == .truncated || (lead == 0xed && rest.length == 1 && rest.all isContinuation)

/-- The characters of the bytes from `position` on, and the bytes left over; `skip` bytes of the
last character are still to be passed over. A character that the end cuts off is left over if more
bytes may follow, and else it is at fault. -/
def decodeFrom (final : Bool) (position : Nat) :
    Nat → List UInt8 → Except DecodeError (List Char × List UInt8)
  | _, [] => .ok ([], [])
  | skip + 1, _ :: rest => decodeFrom final (position + 1) skip rest
  | 0, lead :: rest =>
    match decodeChar lead rest with
    | .error (fault, size) =>
      if !final && endsEarly lead rest fault then .ok ([], lead :: rest)
      else .error { byte := lead, size, position, fault }
    | .ok (c, size) =>
      (decodeFrom final (position + 1) (size - 1) rest).map fun (cs, left) => (c :: cs, left)

/-- The characters that the bytes stand for in UTF-8. -/
def decode (bytes : List UInt8) : Except DecodeError (List Char) :=
  (decodeFrom true 0 0 bytes).map (·.1)

/-- The bytes of a text in UTF-8. -/
def encode (s : String) : List UInt8 :=
  s.toUTF8.data.toList

/-- Lines may end in a carriage return, a line feed or both; afterwards all end in a line feed. -/
def normaliseLineEnds : List Char → List Char
  | '\r' :: '\n' :: rest => '\n' :: normaliseLineEnds rest
  | '\r' :: rest => '\n' :: normaliseLineEnds rest
  | c :: rest => c :: normaliseLineEnds rest
  | [] => []

/-- A character set for writing text. -/
inductive Charset where
  | utf8
  | latin1
  | ascii
  deriving DecidableEq

/-- Code points that a set lacks: the first one, how many in a row, and where. `reason` says what is
wrong with them. -/
structure EncodeError where
  charset : String
  first : CodePoint
  size : Nat
  position : Nat
  reason : String
  deriving DecidableEq

/-- The error in words. -/
def EncodeError.message (e : EncodeError) : String :=
  "'" ++ e.charset ++ "' codec can't encode character" ++
    (if e.size = 1 then
      " '" ++ String.ofList (codeEscape e.first.toNat) ++ "' in position " ++ toString e.position
    else
      "s in position " ++ toString e.position ++ "-" ++ toString (e.position + e.size - 1)) ++
    ": " ++ e.reason

/-- The first code points of a text that a set lacks. -/
def lacking? (charset reason : String) (fits : CodePoint → Bool) (s : List CodePoint) :
    Option EncodeError :=
  match s.dropWhile fits with
  | [] => none
  | c :: rest =>
    some
      { charset, first := c, size := 1 + (rest.takeWhile fun c => !fits c).length,
        position := (s.takeWhile fits).length, reason }

/-- The bytes of a text in a set whose characters are one byte each. -/
def encodeBytes (charset : String) (limit : Nat) (s : List CodePoint) :
    Except EncodeError (List UInt8) :=
  let reason := "ordinal not in range(" ++ toString limit ++ ")"
  match lacking? charset reason (fun c => c.toNat < limit) s with
  | some e => .error e
  | none => .ok (s.map fun c => c.toNat.toUInt8)

/-- The bytes of a text in a character set. The half of a surrogate pair has none in any of them. -/
def encodeIn (charset : Charset) (s : List CodePoint) : Except EncodeError (List UInt8) :=
  match charset with
  | .utf8 =>
    match lacking? "utf-8" "surrogates not allowed" (fun c => c.char?.isSome) s with
    | some e => .error e
    | none => .ok (encode (String.ofList (s.filterMap CodePoint.char?)))
  | .latin1 => encodeBytes "latin-1" 256 s
  | .ascii => encodeBytes "ascii" 128 s

end Wireform.Text
