import Wireform.Binary64.Basic
import Wireform.Text.Utf8

/-!
Text that comes from bytes a portion at a time. Bytes are taken in blocks, and a block is decoded as
a whole. What the end of a block cuts apart waits for the next one: the bytes of a character, or a
carriage return, which may belong to a line feed. Bytes that are no text are found when a portion
needs their block, and their place is counted from where that block begins.
-/

namespace Wireform.Text

/-- The characters of a portion, at most. -/
def portionSize : Nat := 4096

/-- The bytes of a block, at least. -/
def leastBlock : Nat := 8192

/-- The state of reading: the bytes not taken yet, those that wait for the rest of their character,
whether a carriage return waits, the characters that no portion has had yet, and how many bytes a
character took in the last block. -/
structure Stream where
  bytes : List UInt8
  waiting : List UInt8 := []
  carriage : Bool := false
  ready : List Char := []
  density : Binary64 := .zero

namespace Stream

/-- The bytes to take for a number of characters, going by the last block. -/
def blockSize (s : Stream) (wanted : Nat) : Nat :=
  let guess :=
    match s.density with
    | .finite _ units _ =>
      if units ≤ Binary64.one then wanted
      else
        match s.density.mul (.ofInt wanted) with
        | .finite _ units _ => units / Binary64.one
        | _ => wanted
    | _ => wanted
  max leastBlock guess

/-- How many bytes a character takes, if so many bytes make so many characters. -/
def densityOf (bytes chars : Nat) : Binary64 :=
  if chars = 0 then .zero else .nearest false (bytes * Binary64.one) chars

/-- Takes a block and decodes it: whether there was anything left, and the state after it. -/
def takeBlock (s : Stream) (wanted : Nat) : Except DecodeError (Bool × Stream) := do
  let block := s.bytes.take (s.blockSize wanted)
  let final := block.isEmpty
  let (chars, waiting) ← decodeFrom final 0 0 (s.waiting ++ block)
  let chars := if s.carriage && (final || !chars.isEmpty) then '\r' :: chars else chars
  let cut := !final && chars.getLast? == some '\r'
  let ready := normaliseLineEnds (if cut then chars.dropLast else chars)
  let carriage := cut || (s.carriage && !final && chars.isEmpty)
  return (!final || !ready.isEmpty,
    { bytes := s.bytes.drop block.length, waiting, carriage, ready,
      density := densityOf block.length ready.length })

/-- The next characters, as many as wanted unless the bytes end. -/
def take : Nat → Stream → Nat → Except DecodeError (List Char × Stream)
  | 0, s, _ => .ok ([], s)
  | fuel + 1, s, wanted => do
    let got := s.ready.take wanted
    let s := { s with ready := s.ready.drop wanted }
    if got.length < wanted then
      let (more, s) ← s.takeBlock (wanted - got.length)
      if more then
        let (others, s) ← take fuel s (wanted - got.length)
        return (got ++ others, s)
      else return (got, s)
    else return (got, s)

/-- The portions up to the end, or up to bytes that are no text. -/
def portionsFrom : Nat → Stream → List (List Char) × Option DecodeError
  | 0, _ => ([], none)
  | fuel + 1, s =>
    match s.take (s.bytes.length + 2) portionSize with
    | .error e => ([], some e)
    | .ok ([], _) => ([], none)
    | .ok (portion, s) =>
      let (portions, e) := portionsFrom fuel s
      (portion :: portions, e)

end Stream

/-- The portions of the text that bytes stand for, all line ends alike, and what is wrong with the
bytes behind them, if anything. -/
def portions (bytes : List UInt8) : List (List Char) × Option DecodeError :=
  Stream.portionsFrom (bytes.length + 2) { bytes }

end Wireform.Text
