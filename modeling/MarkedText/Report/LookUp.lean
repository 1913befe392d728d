import MarkedText.Fault

/-!
# Parts of reports by name and number

Codes, written forms and spans as they are asked for from outside, or the fault when there is no
such thing.

* `named_name`, `numbered_number`: every code is found by its name and by its number.
-/

namespace MarkedText.Report

namespace Code

def named (t : Text) : Except Fault Code :=
  match ofName? t with
  | some c => .ok c
  | none => .error (.unknownCodeName t)

def numbered (n : Int) : Except Fault Code :=
  match ofNumber? n with
  | some c => .ok c
  | none => .error (.unknownCodeNumber n)

theorem named_name (c : Code) : named c.name = .ok c := by cases c <;> rfl

theorem numbered_number (c : Code) : numbered c.number = .ok c := by cases c <;> rfl

end Code

def Form.named (t : Text) : Except Fault Form :=
  match Form.ofName? t with
  | some f => .ok f
  | none => .error (.unknownForm t)

/-- The span with the given numbers. -/
def spanOf (start stop line column : Int) : Except Fault Span :=
  (Span.ofInts start stop line column).mapError .badSpan

/-- What a fault can be announced with: plain words or a report. -/
inductive Notice where
  | words (t : Text)
  | report (r : Report)
  deriving DecidableEq, Repr

/-- The text of the announcement; a report is shown as its unpainted block. -/
def Notice.text : Notice → Text
  | words t => t
  | report r => r.block false

def Notice.report? : Notice → Option Report
  | words _ => none
  | report r => some r

end MarkedText.Report
