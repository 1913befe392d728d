import MarkedText.Document.Snippet
import MarkedText.Marker.Scan

/-!
# Reports on malformed markers

A malformed marker is reported with its span in the raw text, the location of its glyph, and the raw
line it stands on with a caret under the glyph.

* `span_start`, `span_place`: the span starts at the glyph, and its line and column are the glyph's.
* `width_pos`: a span is never empty.
-/

namespace MarkedText

namespace Malformed

/-- How many code points of the raw text are to blame: the glyph, the glyph and the opener, or the
whole marker. -/
def width (m : Malformed) : Nat :=
  match m.flaw with
  | .bareGlyph => 1
  | .unterminated => 2
  | .invalidLabel label | .duplicateLabel label => label.length + 3

/-- The span of the marker in the text of `raw`. -/
def span (m : Malformed) (raw : Document) : Report.Span where
  start := m.start
  stop := m.start + m.width
  line := (raw.table.locate m.start).line
  column := (raw.table.locate m.start).column
  start_le_stop := Nat.le_add_right _ _
  one_le_line := (raw.table.one_le_locate m.start).1
  one_le_column := (raw.table.one_le_locate m.start).2

/-- The report on the marker in the text of `raw`. -/
def report (d : Delimiters) (raw : Document) (m : Malformed) : Report :=
  let span := m.span raw
  let snippet := raw.snippet m.start 0 caretSign
  match m.flaw with
  | .bareGlyph => .bareGlyph (d.token []) [d.opener] span snippet
  | .unterminated => .unterminated [d.closer] span snippet
  | .invalidLabel label => .invalidLabel label labelPattern span snippet
  | .duplicateLabel label => .duplicateLabel label span snippet

theorem span_start (m : Malformed) (raw : Document) : (m.span raw).start = m.start := rfl

theorem span_place (m : Malformed) (raw : Document) :
    Loc.mk (m.span raw).line (m.span raw).column = raw.table.locate m.start := rfl

theorem width_pos (m : Malformed) : 0 < m.width := by
  unfold width; split <;> omega

theorem report_span (d : Delimiters) (raw : Document) (m : Malformed) :
    (m.report d raw).span = some (m.span raw) := by
  unfold report; split <;> rfl

end Malformed

end MarkedText
