import MarkedText.Cursor

/-!
# Scanned integers

An integer is scanned at a cursor by taking code points as long as a test holds and reading what was
taken. The cursor moves past the code points whether or not they spell an integer.

* `scanInteger_fst`: where the cursor is left.
* `DigitTest`: the tests that a scan may go by.
-/

namespace MarkedText

/-- Tests on the position of a cursor that is not at the end. -/
inductive DigitTest where
  | digit
  | ascii
  | always
  | never
  | beforeDigit
  | oneOf (choices : Text)
  deriving DecidableEq, Repr

/-- Whether a code point is there and has a property. -/
def has (p : Char → Bool) (c : Option Char) : Bool := c.any p

/-- Whether the test holds at a cursor. -/
def DigitTest.holds : DigitTest → Cursor → Bool
  | digit, c => has Text.isDigit (c.peek 0)
  | ascii, c => has Text.isAsciiDigit (c.peek 0)
  | always, _ => true
  | never, _ => false
  | beforeDigit, c => has Text.isDigit (c.peek 1)
  | oneOf choices, c => has choices.contains (c.peek 0)

namespace Cursor

/-- The cursor behind the scanned code points, and the integer that they spell. -/
def scanInteger (test : Cursor → Bool) (c : Cursor) : Cursor × Except Fault Int :=
  let stop := c.skipWhile test
  (stop, (Numeral.read (c.document.slice c.index stop.index)).mapError .badNumeral)

theorem scanInteger_fst (test : Cursor → Bool) (c : Cursor) :
    (c.scanInteger test).1 = c.skipWhile test := rfl

end Cursor

end MarkedText
