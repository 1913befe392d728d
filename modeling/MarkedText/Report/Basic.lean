import MarkedText.Report.Code
import MarkedText.Report.Span
import MarkedText.Text.Quoted

/-!
# Reports

A report says what went wrong: a code, a message, and where they help a span of the raw text, a
hint and a snippet. Any text may be the severity; the reports of this library are errors.

The second half holds the wording of every report that the library makes itself.
-/

namespace MarkedText

structure Report where
  code : Report.Code
  message : Text
  span : Option Report.Span
  hint : Option Text
  snippet : Option Text
  severity : Text
  deriving DecidableEq, Repr

namespace Report

def errorSeverity : Text := "error".toList

def warningSeverity : Text := "warning".toList

/-- A report of severity `error` with nothing but a code and a message. -/
def plain (code : Code) (message : Text) : Report :=
  ⟨code, message, none, none, none, errorSeverity⟩

/-- An error about a span of a raw text, with a hint and a snippet. -/
def located (code : Code) (message : Text) (span : Span) (hint snippet : Text) : Report :=
  ⟨code, message, some span, some hint, some snippet, errorSeverity⟩

/-- The words that place a message. -/
def atSpan (span : Span) : Text :=
  " at line ".toList ++ Text.ofNat span.line ++ ", column ".toList ++ Text.ofNat span.column

/-! ## Malformed fixtures -/

/-- The glyph stands alone; `token` shows a marker that is well formed. -/
def bareGlyph (token opener : Text) (span : Span) (snippet : Text) : Report :=
  located .bareGlyph
    ("Marker glyph".toList ++ atSpan span ++ " is not followed by '".toList ++ opener ++ "'".toList)
    span
    ("Write markers as '".toList ++ token ++ "'; the glyph cannot be escaped".toList)
    snippet

/-- The marker does not close on its line. -/
def unterminated (closer : Text) (span : Span) (snippet : Text) : Report :=
  located .unterminated ("Unterminated marker".toList ++ atSpan span) span
    ("Close the marker with '".toList ++ closer ++ "' on the same line".toList)
    snippet

/-- The label holds other code points than `pattern` allows. -/
def invalidLabel (label pattern : Text) (span : Span) (snippet : Text) : Report :=
  located .invalidLabel
    ("Invalid marker label ".toList ++ Text.quote label ++ atSpan span) span
    ("Labels must match ".toList ++ pattern)
    snippet

/-- The label has been used before. -/
def duplicateLabel (label : Text) (span : Span) (snippet : Text) : Report :=
  located .duplicateLabel
    ("Duplicate marker label '".toList ++ label ++ "'".toList ++ atSpan span) span
    "Each label may appear only once per fixture".toList
    snippet

/-- The raw text has more code points than allowed. -/
def tooLarge (size limit : Int) : Report :=
  { plain .tooLarge ("Fixture of ".toList ++ Text.ofInt size ++
      " codepoints exceeds limit of ".toList ++ Text.ofInt limit) with
    hint := some "Raise CaptureConfig.max_fixture_size or split the fixture".toList }

/-! ## Misused cursors -/

/-- A slice between cursors of two documents. -/
def crossDocument : Report :=
  { plain .crossDocument "take_until() target cursor belongs to a different document".toList with
    hint := some "Derive both cursors from the same capture() result".toList }

/-- A slice whose end lies before its start. -/
def cursorOrder (start stop : Int) : Report :=
  { plain .cursorOrder ("take_until() target at index ".toList ++ Text.ofInt stop ++
      " precedes cursor at index ".toList ++ Text.ofInt start) with
    hint := some "Call take_until() on the earlier cursor, passing the later one".toList }

/-- A code point was asked for at the end of the text. -/
def unexpectedEnd (position : Int) : Report :=
  plain .unexpectedEnd ("Unexpected EOF at position ".toList ++ Text.ofInt position)

/-! ## Replay and look-up -/

/-- No marker is left to replay. -/
def exhausted (count : Int) : Report :=
  { plain .exhausted ("Marker iterator exhausted after ".toList ++ Text.ofInt count ++
      " marker(s)".toList) with
    hint := some "Add a marker to the fixture or call next() fewer times".toList }

/-- What a marker is looked up by. -/
inductive Key where
  | index (n : Int)
  | label (t : Text)
  deriving DecidableEq, Repr

/-- No marker has the key. -/
def notFound (key : Key) (count : Int) : Report :=
  plain .notFound <| match key with
    | .index n => "Marker index ".toList ++ Text.ofInt n ++ " out of range for ".toList ++
        Text.ofInt count ++ " marker(s)".toList
    | .label t => "Marker label '".toList ++ t ++ "' not found".toList

end Report

end MarkedText
