import MarkedText.Report.Record

/-!
# Reading flat JSON objects

The way back from a JSON text to a record. A scan reads the text once, one code point at a time, and
cuts it into tokens: texts, natural numbers, and the signs between them. Tokens that make up one
object, whose values are texts and numbers, give a record.

Blank space may stand between any two tokens. A text may hold every escape that JSON has, and a pair
of surrogates for a code point above U+FFFF. Refused are controls that are not escaped, surrogates
without their other half, numbers with a leading zero, and everything that is no flat object.

* `Record.ofJson?`: the record that a JSON text spells.
* `run_append`: scanning two texts is going on with the second where the first left off.
-/

namespace MarkedText.Report

/-- A part of a JSON text. -/
inductive JsonToken where
  | atom (a : Atom)
  | sign (c : Char)
  deriving DecidableEq, Repr

/-! ## Escapes and numbers -/

/-- The value of a hexadecimal digit. -/
def hexValue? (c : Char) : Option Nat :=
  if '0' ≤ c ∧ c ≤ '9' then some (c.toNat - '0'.toNat)
  else if 'a' ≤ c ∧ c ≤ 'f' then some (c.toNat - 'a'.toNat + 10)
  else if 'A' ≤ c ∧ c ≤ 'F' then some (c.toNat - 'A'.toNat + 10)
  else none

/-- The code point that a letter behind a backslash stands for. -/
def letterEscape? (c : Char) : Option Char :=
  if c = Text.doubleQuote ∨ c = '\\' ∨ c = '/' then some c
  else if c = 'n' then some '\n'
  else if c = 'r' then some '\r'
  else if c = 't' then some '\t'
  else if c = 'f' then some '\x0c'
  else if c = 'b' then some '\x08'
  else none

/-- The first half of a code point above U+FFFF. -/
def IsHighSurrogate (n : Nat) : Prop := 0xd800 ≤ n ∧ n ≤ 0xdbff

/-- The second half. -/
def IsLowSurrogate (n : Nat) : Prop := 0xdc00 ≤ n ∧ n ≤ 0xdfff

instance (n : Nat) : Decidable (IsHighSurrogate n) := inferInstanceAs (Decidable (_ ∧ _))

instance (n : Nat) : Decidable (IsLowSurrogate n) := inferInstanceAs (Decidable (_ ∧ _))

/-- The code point that two surrogates stand for. -/
def joinSurrogates (high low : Nat) : Char :=
  Char.ofNat (0x10000 + 0x400 * (high - 0xd800) + (low - 0xdc00))

/-- The number that a row of digits spells; there is just one way to write it. -/
def numberOf? (digits : Text) : Option Nat :=
  if digits.head? = some '0' ∧ digits ≠ ['0'] then none else some (Nat.ofDigitChars 10 digits 0)

/-! ## The scan -/

/-- What a scan is in the middle of. What has been read of a text or a number is held last code
point first; an escape remembers the high surrogate in front of it, if there is one, and a numeric
one the value and the number of the digits that are to come behind the next. -/
inductive JsonScan.Mode where
  | plain
  | number (digits : Text)
  | text (read : Text)
  | escape (read : Text) (high : Option Nat)
  | unit (read : Text) (high : Option Nat) (value left : Nat)
  | half (read : Text) (high : Nat)
  | refused
  deriving DecidableEq, Repr

/-- A scan under way: the tokens so far, last first, and the mode. -/
structure JsonScan where
  tokens : List JsonToken
  mode : JsonScan.Mode
  deriving DecidableEq, Repr

namespace JsonScan

/-- Before the first code point. -/
def start : JsonScan := ⟨[], .plain⟩

def isBlank (c : Char) : Bool := c == ' ' || c == '\t' || c == '\n' || c == '\r'

def isSign (c : Char) : Bool := c == '\x7b' || c == '\x7d' || c == ':' || c == ','

/-- The scan behind one more token. -/
def emit (s : JsonScan) (t : JsonToken) : JsonScan := ⟨t :: s.tokens, .plain⟩

/-- What `c` begins between two tokens. -/
def startToken (s : JsonScan) (c : Char) : JsonScan :=
  if isBlank c then { s with mode := .plain }
  else if isSign c then s.emit (.sign c)
  else if c = Text.doubleQuote then { s with mode := .text [] }
  else if c.isDigit then { s with mode := .number [c] }
  else { s with mode := .refused }

/-- The mode behind a numeric escape of the given value. -/
def Mode.ofUnit (read : Text) (high : Option Nat) (value : Nat) : Mode :=
  match high with
  | some high =>
    if IsLowSurrogate value then .text (joinSurrogates high value :: read) else .refused
  | none =>
    if IsHighSurrogate value then .half read value
    else if IsLowSurrogate value then .refused
    else .text (Char.ofNat value :: read)

/-- What `c` means in the present mode. -/
def step (s : JsonScan) (c : Char) : JsonScan :=
  match s.mode with
  | .plain => s.startToken c
  | .number digits =>
    if c.isDigit then { s with mode := .number (c :: digits) }
    else
      match numberOf? digits.reverse with
      | some n => (s.emit (.atom (.number n))).startToken c
      | none => { s with mode := .refused }
  | .text read =>
    if c = Text.doubleQuote then s.emit (.atom (.text read.reverse))
    else if c = '\\' then { s with mode := .escape read none }
    else if c.toNat < 0x20 then { s with mode := .refused }
    else { s with mode := .text (c :: read) }
  | .escape read high =>
    if c = 'u' then { s with mode := .unit read high 0 3 }
    else
      match high, letterEscape? c with
      | none, some x => { s with mode := .text (x :: read) }
      | _, _ => { s with mode := .refused }
  | .unit read high value left =>
    match hexValue? c, left with
    | some d, left + 1 => { s with mode := .unit read high (16 * value + d) left }
    | some d, 0 => { s with mode := .ofUnit read high (16 * value + d) }
    | none, _ => { s with mode := .refused }
  | .half read high =>
    if c = '\\' then { s with mode := .escape read (some high) } else { s with mode := .refused }
  | .refused => s

/-- The scan after a whole text. -/
def run (s : JsonScan) (t : Text) : JsonScan := t.foldl step s

/-- The tokens in order, if the text may end here. No object ends with a number. -/
def finish (s : JsonScan) : Option (List JsonToken) :=
  if s.mode = .plain then some s.tokens.reverse else none

@[simp] theorem run_nil (s : JsonScan) : s.run [] = s := rfl

@[simp] theorem run_cons (s : JsonScan) (c : Char) (t : Text) :
    s.run (c :: t) = (s.step c).run t := rfl

theorem run_append (s : JsonScan) (t u : Text) : s.run (t ++ u) = (s.run t).run u := by
  simp [run]

end JsonScan

/-! ## Objects -/

/-- The members from a name on, up to the brace that ends the tokens. -/
def membersOf? : List JsonToken → Option Record
  | [.atom (.text name), .sign ':', .atom value, .sign '\x7d'] => some [(name, value)]
  | .atom (.text name) :: .sign ':' :: .atom value :: .sign ',' :: rest =>
    (membersOf? rest).map fun members => (name, value) :: members
  | _ => none

/-- The members between two braces. -/
def objectOf? : List JsonToken → Option Record
  | [.sign '\x7b', .sign '\x7d'] => some []
  | .sign '\x7b' :: rest => membersOf? rest
  | _ => none

/-- The record that a JSON text spells. -/
def Record.ofJson? (t : Text) : Option Record := (JsonScan.start.run t).finish.bind objectOf?

end MarkedText.Report
