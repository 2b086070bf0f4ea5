import SqlUpdate.Json.Basic
import SqlUpdate.Text.Hexadecimal
/-!
# The tokens of a JSON text

The text is read one character at a time; what has been read of the token at hand is a value of
`Lexing`, so that reading a text in two parts is reading the first part and then the second.

* `StringUnit`, `textOfUnits` — the characters and escapes of a string, and the text they spell.
* `Lexing.step?` — reads one more character and hands out the tokens that it completes.
* `tokens?` — the tokens of a whole text.
-/

namespace SqlUpdate.Json

/-! ### Strings -/

/-- What a string is made of: characters, and UTF-16 units written as escapes. -/
inductive StringUnit where
  /-- A character, written as itself or as a short escape. -/
  | char (c : Char)
  /-- An escape of four hexadecimal digits. -/
  | code (n : Nat)
  deriving DecidableEq, Repr

/-- Whether a UTF-16 unit is the first half of a surrogate pair. -/
def isHighSurrogate (n : Nat) : Bool := decide (0xD800 ≤ n) && decide (n ≤ 0xDBFF)

/-- Whether a UTF-16 unit is the second half of a surrogate pair. -/
def isLowSurrogate (n : Nat) : Bool := decide (0xDC00 ≤ n) && decide (n ≤ 0xDFFF)

/-- The character that a surrogate pair stands for. -/
def pairedChar (high low : Nat) : Char :=
  Char.ofNat (0x10000 + (high - 0xD800) * 0x400 + (low - 0xDC00))

/-- The characters that a string spells, if each half of a surrogate pair stands beside the
other. -/
def charsOfUnits : List StringUnit → Option (List Char)
  | [] => some []
  | .char c :: us => (charsOfUnits us).map (c :: ·)
  | .code n :: us =>
    if isLowSurrogate n then none
    else if isHighSurrogate n then
      match us with
      | .code m :: us =>
        if isLowSurrogate m then (charsOfUnits us).map (pairedChar n m :: ·) else none
      | _ => none
    else (charsOfUnits us).map (Char.ofNat n :: ·)

/-- The text that a string spells. -/
def textOfUnits (us : List StringUnit) : Text := (charsOfUnits us).map String.ofList

/-- The character that an escape of one letter stands for. -/
def shortEscape? : Char → Option Char
  | '"' => some '"'
  | '\\' => some '\\'
  | '/' => some '/'
  | 'b' => some '\x08'
  | 'f' => some '\x0c'
  | 'n' => some '\n'
  | 'r' => some '\r'
  | 't' => some '\t'
  | _ => none

/-! ### Tokens -/

/-- A token of a JSON text. -/
inductive Token where
  | openArray
  | closeArray
  | openObject
  | closeObject
  | colon
  | comma
  /-- A value that is one word: `null`, `true` or `false`. -/
  | word (value : Json)
  | number (value : Numeral)
  | string (value : Text)
  deriving Inhabited

/-- The blanks that may stand between tokens. -/
def isBlank (c : Char) : Bool := c = ' ' || c = '\n' || c = '\t' || c = '\r'

/-- What a reader of tokens is in the middle of. -/
inductive Lexing where
  /-- Between two tokens. -/
  | between
  /-- In a word, of which these characters are missing. -/
  | word (missing : List Char) (value : Json)
  /-- In a number. -/
  | number (scan : Numeral.Scan)
  /-- In a string, of which these units have been read, the last one first. -/
  | string (read : List StringUnit)
  /-- Behind a backslash. -/
  | escape (read : List StringUnit)
  /-- In an escape of which so many hexadecimal digits are missing. -/
  | hex (read : List StringUnit) (missing : Nat) (value : Nat)
  deriving Inhabited

/-- Reads the first character of a token, or a blank. -/
def Lexing.start? (c : Char) : Option (Lexing × List Token) :=
  if isBlank c then some (.between, [])
  else match c with
    | '[' => some (.between, [.openArray])
    | ']' => some (.between, [.closeArray])
    | '{' => some (.between, [.openObject])
    | '}' => some (.between, [.closeObject])
    | ':' => some (.between, [.colon])
    | ',' => some (.between, [.comma])
    | '"' => some (.string [], [])
    | 'n' => some (.word ['u', 'l', 'l'] .null, [])
    | 't' => some (.word ['r', 'u', 'e'] (.bool true), [])
    | 'f' => some (.word ['a', 'l', 's', 'e'] (.bool false), [])
    | c => (Numeral.Scan.start? c).map fun s => (.number s, [])

/-- Reads one more character and hands out the tokens that it completes. A number ends where a
character does not continue it. -/
def Lexing.step? : Lexing → Char → Option (Lexing × List Token)
  | .between, c => Lexing.start? c
  | .word missing value, c =>
    match missing with
    | [m] => if c = m then some (.between, [.word value]) else none
    | m :: ms => if c = m then some (.word ms value, []) else none
    | [] => none
  | .number s, c =>
    match s.step? c with
    | some s => some (.number s, [])
    | none => do
      let n ← s.done?
      let (l, ts) ← Lexing.start? c
      some (l, .number n :: ts)
  | .string read, c =>
    if c = '"' then some (.between, [.string (textOfUnits read.reverse)])
    else if c = '\\' then some (.escape read, [])
    else if c.toNat < 0x20 then none
    else some (.string (.char c :: read), [])
  | .escape read, c =>
    if c = 'u' then some (.hex read 4 0, [])
    else (shortEscape? c).map fun d => (.string (.char d :: read), [])
  | .hex read missing value, c => do
    let d ← Text.hexDigit? c
    let value := 16 * value + d
    if missing ≤ 1 then some (.string (.code value :: read), [])
    else some (.hex read (missing - 1) value, [])

/-- The token that the end of the text completes, if the text may end here. -/
def Lexing.finish? : Lexing → Option (List Token)
  | .between => some []
  | .number s => s.done?.map fun n => [.number n]
  | _ => none

/-- The tokens of the rest of a text. -/
def Lexing.rest? : Lexing → List Char → Option (List Token)
  | l, [] => l.finish?
  | l, c :: cs => do
    let (l, ts) ← l.step? c
    let rest ← l.rest? cs
    some (ts ++ rest)

/-- The tokens of a text. -/
def tokens? (cs : List Char) : Option (List Token) := Lexing.between.rest? cs

end SqlUpdate.Json
