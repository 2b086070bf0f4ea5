/-!
# UTF-8

* `bytes` — the bytes of a text.
* `Part`, `parts` — the characters and faults that bytes are read as. They are read one at a time;
  what has been read of the character at hand is a value of `Pending`. Bytes that are no character
  are kept as faults with their number, so that they can be replaced, or refused with their place.
* `text` — the text of some bytes, with one character in place of each fault.
* `chars` — the characters of some bytes, or the first fault and its place.
-/

namespace SqlUpdate.Utf8

/-- The bytes of a text. -/
def bytes (s : String) : List UInt8 := s.toList.flatMap String.utf8EncodeChar

/-- The bytes from one to another. -/
structure Range where
  /-- The least byte. -/
  least : Nat
  /-- The greatest byte. -/
  greatest : Nat
  deriving DecidableEq, Repr

/-- The bytes that stand behind the first one of a character. -/
def Range.tail : Range := ⟨0x80, 0xBF⟩

/-- Whether a byte is in a range. -/
def Range.has (r : Range) (b : Nat) : Bool := r.least ≤ b && b ≤ r.greatest

/-- The ranges of the bytes that follow the first byte of a character. The second byte is restricted
where the character would have a shorter form, be half of a surrogate pair, or lie beyond the last
character. -/
def following? (b : Nat) : Option (List Range) :=
  if b < 0x80 then some []
  else if b < 0xC2 then none
  else if b < 0xE0 then some [.tail]
  else if b = 0xE0 then some [⟨0xA0, 0xBF⟩, .tail]
  else if b = 0xED then some [⟨0x80, 0x9F⟩, .tail]
  else if b < 0xF0 then some [.tail, .tail]
  else if b = 0xF0 then some [⟨0x90, 0xBF⟩, .tail, .tail]
  else if b < 0xF4 then some [.tail, .tail, .tail]
  else if b = 0xF4 then some [⟨0x80, 0x8F⟩, .tail, .tail]
  else none

/-- The bits that the first byte of a character holds. -/
def leadingBits (b : Nat) : Nat :=
  if b < 0x80 then b
  else if b < 0xE0 then b % 0x20
  else if b < 0xF0 then b % 0x10
  else b % 0x08

/-- What bytes are read as. -/
inductive Part where
  /-- A character. -/
  | char (c : Char)
  /-- So many bytes that are no character, whatever follows them. -/
  | invalid (count : Nat)
  /-- So many bytes of a character that the end cuts off. -/
  | incomplete (count : Nat)
  deriving DecidableEq, Repr

/-- A character of which some bytes have been read. -/
structure Pending where
  /-- The number of bytes that have been read. -/
  count : Nat
  /-- The bits that they hold. -/
  bits : Nat
  /-- The ranges of the next byte and of the bytes behind it. -/
  next : Range
  /-- The ranges of the bytes behind the next one. -/
  later : List Range
  deriving DecidableEq, Repr

/-- Reads the first byte of a character. -/
def start (b : Nat) : List Part × Option Pending :=
  match following? b with
  | none => ([.invalid 1], none)
  | some [] => ([.char (Char.ofNat b)], none)
  | some (r :: rs) => ([], some ⟨1, leadingBits b, r, rs⟩)

/-- Reads one more byte of a character. A byte that cannot follow starts anew. -/
def Pending.step (p : Pending) (b : Nat) : List Part × Option Pending :=
  if p.next.has b then
    let bits := 0x40 * p.bits + b % 0x40
    match p.later with
    | [] => ([.char (Char.ofNat bits)], none)
    | r :: rs => ([], some ⟨p.count + 1, bits, r, rs⟩)
  else (.invalid p.count :: (start b).1, (start b).2)

/-- Reads one more byte. -/
def step : Option Pending → Nat → List Part × Option Pending
  | none, b => start b
  | some p, b => p.step b

/-- The parts of the rest of some bytes. -/
def rest : Option Pending → List UInt8 → List Part
  | none, [] => []
  | some p, [] => [.incomplete p.count]
  | p, b :: bs => (step p b.toNat).1 ++ rest (step p b.toNat).2 bs

/-- The parts of some bytes. -/
def parts (bytes : List UInt8) : List Part := rest none bytes

/-- The character that stands in place of a fault. -/
def replacement : Char := '\uFFFD'

/-- The character that a part is shown as. -/
def Part.shown : Part → Char
  | .char c => c
  | .invalid _ | .incomplete _ => replacement

/-- The characters of some bytes, with one in place of each fault. -/
def replaced (bytes : List UInt8) : List Char := (parts bytes).map Part.shown

/-- The text of some bytes, with one character in place of each fault. -/
def text (bytes : List UInt8) : String := String.ofList (replaced bytes)

/-- A fault in some bytes. -/
inductive Fault where
  /-- From a place on, so many bytes are no character. -/
  | invalid (count place : Nat)
  /-- The character at a place is cut off by the end. -/
  | incomplete (place : Nat)
  deriving DecidableEq, Repr

/-- A fault in words. -/
def Fault.message : Fault → String
  | .invalid count place =>
    "invalid utf-8 sequence of " ++ Nat.repr count ++ " bytes from index " ++ Nat.repr place
  | .incomplete place => "incomplete utf-8 byte sequence from index " ++ Nat.repr place

/-- The characters of parts that start at a place, or the first fault. -/
def charsFrom (place : Nat) : List Part → Except Fault (List Char)
  | [] => .ok []
  | .char c :: ps => (charsFrom (place + c.utf8Size) ps).map (c :: ·)
  | .invalid count :: _ => .error (.invalid count place)
  | .incomplete _ :: _ => .error (.incomplete place)

/-- The characters of some bytes, or the first fault. -/
def chars (bytes : List UInt8) : Except Fault (List Char) := charsFrom 0 (parts bytes)

end SqlUpdate.Utf8
