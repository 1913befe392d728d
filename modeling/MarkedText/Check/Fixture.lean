import MarkedText.Capture.Replay
import MarkedText.Check.Compare
import MarkedText.Check.Integer
import MarkedText.Check.LineBreak

/-!
# Checks on fixtures

Ready-made checks that capture a fixture, place a cursor at its first marker, and compare what is
found there with an expectation. Fixtures and expected blocks may have a line break on either side.

* `lineCheck`, `debugCheck`, `locCheck`: the first marker's lines, snippet and location.
* `integerCheck`: the integers between the pairs of markers of one fixed fixture.
* `captureCheck`: the clean text.
-/

namespace MarkedText.Harness

/-- Captures a fixture by the rules of the harness. -/
def capture (h : Harness) (raw : Text) : Except Fault Capture := Capture.ofRaw h.rules 0 raw

/-- The cursor at the first marker of a capture. -/
def firstOf (c : Capture) : Except Fault Cursor := (Replay.ofCapture c).next.2

/-- The cursor at the first marker of a fixture. -/
def first (h : Harness) (fixture : Text) : Except Fault Cursor :=
  h.capture (Text.trimBreaks fixture) >>= firstOf

/-! ## Location, lines and snippet of the first marker -/

/-- Checks the line, then the column, of the first marker. -/
def locCheck (h : Harness) (fixture : Text) (line column : Int) : Except Fault Unit := do
  let c ← h.first fixture
  h.check (.integer c.loc.line) (.integer line) (some c)
  h.check (.integer c.loc.column) (.integer column) (some c)

/-- A line behind its number, as far as there is one. -/
def numberedLine (d : Document) (n : Int) : Option Text :=
  (d.line? n).map fun line => Text.ofInt n ++ " | ".toList ++ line

/-- The line of a cursor and its neighbours, each behind its number. -/
def linesAround (c : Cursor) : Text :=
  let n : Int := c.loc.line
  Text.joinLines ([n - 1, n, n + 1].filterMap (numberedLine c.document))

/-- Checks the lines around the first marker. -/
def lineCheck (h : Harness) (fixture expected : Text) : Except Fault Unit := do
  let c ← h.first fixture
  h.check (.text (linesAround c)) (.text (Text.trimBreaks expected)) (some c)

/-- Checks the snippet at the first marker. -/
def debugCheck (h : Harness) (fixture expected : Text) : Except Fault Unit := do
  let c ← h.first fixture
  h.check (.text (c.document.snippet c.index standardContext caretSign))
    (.text (Text.trimBreaks expected)) (some c)

/-- Checks the clean text as the first cursor of a capture sees it. -/
def captureCheck (h : Harness) (c : Capture) (expected : Text) : Except Fault Unit := do
  let cursor ← firstOf c
  h.check (.text cursor.document.text) (.text expected) (some cursor)

/-! ## Integers between markers -/

/-- Three integers, each between a pair of markers in the standard delimiters. -/
def integerFixture : Text :=
  "-----🌵()1992🌵()------🌵()12🌵()---🌵()86🌵()---".toList

def integerValues : List Int := [1992, 12, 86]

/-- Checks one integer after the other: its value, then that scanning it ends at the second marker
of its pair. -/
def integersCheck (h : Harness) (test : Cursor → Bool) : List Int → Replay → Except Fault Unit
  | [], _ => .ok ()
  | value :: values, r => do
    let opening := r.next
    let start ← opening.2
    let closing := opening.1.next
    let target ← closing.2
    let scan := start.scanInteger test
    let n ← scan.2
    compareStrictly (.scanned (.integer n)) (.scanned (.integer value)) h.name
    h.check (.integer scan.1.index) (.integer target.index) (some scan.1)
    h.integersCheck test values closing.1

/-- Checks the integers of the fixed fixture. -/
def integerCheck (h : Harness) (test : Cursor → Bool) : Except Fault Unit := do
  let c ← h.capture integerFixture
  h.integersCheck test integerValues (Replay.ofCapture c)

end MarkedText.Harness
