import MarkedText.Report.Basic
import MarkedText.Report.Record

/-!
# Written reports

A report has three written forms: a block of rows for people, one line, and a JSON object. An empty
hint or snippet counts as absent in all of them. Several reports are written one after the other
with an empty row between.

* `block_eq`: the block is its rows joined by line feeds.
* `record`: what the JSON form carries, in order.
-/

namespace MarkedText.Report

/-- An optional text, `none` when it is empty. -/
def present (t : Option Text) : Option Text := t.filter fun t => !t.isEmpty

/-! ## The block -/

/-- The severity that a block shows: anything but a warning is an error. -/
def shownSeverity (r : Report) : Text :=
  if r.severity = warningSeverity then warningSeverity else errorSeverity

/-- Terminal control sequence with the given parameters. -/
def sequence (parameters : Text) : Text := '\x1b' :: '[' :: (parameters ++ ['m'])

/-- The shown severity in bold red or, for a warning, bold yellow. -/
def paintedSeverity (r : Report) : Text :=
  sequence (if r.shownSeverity = warningSeverity then "1;33".toList else "1;31".toList) ++
    r.shownSeverity ++ sequence "0".toList

/-- The first row of a block. -/
def headRow (paint : Bool) (r : Report) : Text :=
  (if paint then r.paintedSeverity else r.shownSeverity) ++ "[".toList ++ r.code.name ++
    "]: ".toList ++ r.message

/-- The row that names a place. -/
def placeRow (s : Span) : Text :=
  "  --> line ".toList ++ Text.ofNat s.line ++ ", column ".toList ++ Text.ofNat s.column

def hintRow (hint : Text) : Text := "  = help: ".toList ++ hint

/-- The rows of a snippet, set in by two. -/
def snippetRows (snippet : Text) : List Text :=
  (Text.splitLines snippet).map fun row => "  ".toList ++ row

/-- Head, place, snippet and hint, as far as there are any. -/
def blockRows (paint : Bool) (r : Report) : List Text :=
  [headRow paint r] ++ (r.span.map placeRow).toList ++
    ((present r.snippet).map snippetRows).getD [] ++ ((present r.hint).map hintRow).toList

def block (paint : Bool) (r : Report) : Text := Text.joinLines (r.blockRows paint)

/-! ## The line -/

/-- Code and message alone. -/
def oneLine (r : Report) : Text := r.code.name ++ ": ".toList ++ r.message

/-! ## The object -/

/-- The members of the JSON form. -/
def record (r : Report) : Record :=
  [("code".toList, .text r.code.name), ("code_value".toList, .number r.code.number),
    ("message".toList, .text r.message), ("severity".toList, .text r.severity)] ++
  (match r.span with
    | none => []
    | some s => [("line".toList, .number s.line), ("column".toList, .number s.column),
        ("start".toList, .number s.start), ("end".toList, .number s.stop)]) ++
  ((present r.hint).map fun hint => ("hint".toList, Atom.text hint)).toList

def json (r : Report) : Text := r.record.json

/-! ## Choice of a form -/

/-- The written forms. -/
inductive Form where
  | block
  | oneLine
  | json
  deriving DecidableEq, Repr

def Form.all : List Form := [.block, .oneLine, .json]

def Form.name : Form → Text
  | .block => "rust".toList
  | .oneLine => "simple".toList
  | .json => "json".toList

def Form.ofName? (t : Text) : Option Form := Form.all.find? fun f => f.name == t

/-- A report in one of the forms; only the block can be painted. -/
def write (form : Form) (paint : Bool) (r : Report) : Text :=
  match form with
  | .block => r.block paint
  | .oneLine => r.oneLine
  | .json => r.json

/-- Several reports, an empty row between each and the next. -/
def writeAll (form : Form) (paint : Bool) (rs : List Report) : Text :=
  List.intercalate "\n\n".toList (rs.map (write form paint))

theorem block_eq (paint : Bool) (r : Report) : r.block paint = Text.joinLines (r.blockRows paint) :=
  rfl

theorem present_eq_some {t : Option Text} {u : Text} (h : present t = some u) :
    t = some u ∧ u ≠ [] := by
  simpa [present, Option.filter_eq_some_iff] using h

end MarkedText.Report
