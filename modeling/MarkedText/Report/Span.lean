import MarkedText.Text.Basic

/-!
# Spans

A span is the place in a raw text that a report is about: a half-open range of offsets, and the
line and column of its start, both counted from one.

* `ofInts`: a span from any four integers, or the first defect in the order start, stop, line,
  column.
* `ofInts_toInts`: every span arises that way from its own numbers.
-/

namespace MarkedText.Report

structure Span where
  start : Nat
  stop : Nat
  line : Nat
  column : Nat
  start_le_stop : start ≤ stop
  one_le_line : 1 ≤ line
  one_le_column : 1 ≤ column
  deriving DecidableEq, Repr

namespace Span

/-- Why four integers are no span. -/
inductive Defect where
  | start (n : Int)
  | stop (n start : Int)
  | line (n : Int)
  | column (n : Int)
  deriving DecidableEq, Repr

def Defect.message : Defect → Text
  | .start n => "SourceSpan.start must be >= 0, got ".toList ++ Text.ofInt n
  | .stop n s => "SourceSpan.end (".toList ++ Text.ofInt n ++ ") must be >= start (".toList ++
      Text.ofInt s ++ ")".toList
  | .line n => "SourceSpan.line must be >= 1 (1-indexed), got ".toList ++ Text.ofInt n
  | .column n => "SourceSpan.column must be >= 1 (1-indexed), got ".toList ++ Text.ofInt n

def ofInts (start stop line column : Int) : Except Defect Span :=
  if h₁ : start < 0 then .error (.start start)
  else if h₂ : stop < start then .error (.stop stop start)
  else if h₃ : line < 1 then .error (.line line)
  else if h₄ : column < 1 then .error (.column column)
  else .ok ⟨start.toNat, stop.toNat, line.toNat, column.toNat, by omega, by omega, by omega⟩

theorem ofInts_toInts (s : Span) : ofInts s.start s.stop s.line s.column = .ok s := by
  have h₁ := s.start_le_stop
  have h₂ := s.one_le_line
  have h₃ := s.one_le_column
  unfold ofInts
  rw [dif_neg (by omega), dif_neg (by omega), dif_neg (by omega), dif_neg (by omega)]
  rfl

/-- The span with its numbers named. -/
def repr (s : Span) : Text :=
  "SourceSpan(start=".toList ++ Text.ofNat s.start ++ ", end=".toList ++ Text.ofNat s.stop ++
    ", line=".toList ++ Text.ofNat s.line ++ ", column=".toList ++ Text.ofNat s.column ++
    ")".toList

end Span

end MarkedText.Report
