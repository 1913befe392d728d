import MarkedText.Text.Basic

/-!
# Report codes

Every report has a code with a name and a number: 1001 and on for fixtures, 2001 and on for
cursors, 3001 and on for replays and look-up.

* `mem_all`: the list of codes is complete.
* `name_injective`, `number_injective`: names and numbers tell codes apart.
-/

namespace MarkedText.Report

/-- What a report is about. -/
inductive Code where
  | bareGlyph
  | unterminated
  | invalidLabel
  | duplicateLabel
  | tooLarge
  | crossDocument
  | cursorOrder
  | unexpectedEnd
  | exhausted
  | notFound
  deriving DecidableEq, Repr

namespace Code

/-- The codes in the order of their numbers. -/
def all : List Code :=
  [bareGlyph, unterminated, invalidLabel, duplicateLabel, tooLarge, crossDocument, cursorOrder,
    unexpectedEnd, exhausted, notFound]

def name : Code → Text
  | bareGlyph => "MARKER_BARE_GLYPH".toList
  | unterminated => "MARKER_UNTERMINATED".toList
  | invalidLabel => "MARKER_INVALID_LABEL".toList
  | duplicateLabel => "MARKER_DUPLICATE_LABEL".toList
  | tooLarge => "FIXTURE_TOO_LARGE".toList
  | crossDocument => "CROSS_DOCUMENT_CURSOR".toList
  | cursorOrder => "CURSOR_ORDER".toList
  | unexpectedEnd => "UNEXPECTED_EOF".toList
  | exhausted => "ITERATOR_EXHAUSTED".toList
  | notFound => "MARKER_NOT_FOUND".toList

def number : Code → Nat
  | bareGlyph => 1001
  | unterminated => 1002
  | invalidLabel => 1003
  | duplicateLabel => 1004
  | tooLarge => 1005
  | crossDocument => 2001
  | cursorOrder => 2002
  | unexpectedEnd => 2003
  | exhausted => 3001
  | notFound => 3002

def ofName? (t : Text) : Option Code := all.find? fun c => c.name == t

def ofNumber? (n : Int) : Option Code := all.find? fun c => (c.number : Int) == n

theorem mem_all (c : Code) : c ∈ all := by cases c <;> decide

theorem name_injective {c d : Code} (h : c.name = d.name) : c = d := by
  revert h; cases c <;> cases d <;> decide

theorem number_injective {c d : Code} (h : c.number = d.number) : c = d := by
  revert h; cases c <;> cases d <;> decide

end Code

end MarkedText.Report
