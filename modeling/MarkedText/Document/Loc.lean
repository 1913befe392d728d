import MarkedText.Text.Basic

/-!
# Locations

A location is a line and a column, both counted from one. A line feed opens the next line; every
other code point, a carriage return included, moves one column on.

* `after_append`: walking over two texts is walking over the second from the end of the first.
-/

namespace MarkedText

structure Loc where
  line : Nat
  column : Nat
  deriving DecidableEq, Repr

namespace Loc

/-- The first place of a text. -/
def origin : Loc := ⟨1, 1⟩

/-- The place behind `c` when `c` stands at `l`. -/
def step (l : Loc) (c : Char) : Loc := if c = '\n' then ⟨l.line + 1, 1⟩ else ⟨l.line, l.column + 1⟩

/-- The place behind a text that starts at `l`. -/
def after (l : Loc) (t : Text) : Loc := t.foldl step l

theorem after_append (l : Loc) (s t : Text) : l.after (s ++ t) = (l.after s).after t := by
  simp [after]

/-- Line and column with a colon between. -/
def text (l : Loc) : Text := Text.ofNat l.line ++ ':' :: Text.ofNat l.column

/-- The location with its parts named. -/
def repr (l : Loc) : Text :=
  "Loc(line=".toList ++ Text.ofNat l.line ++ ", column=".toList ++ Text.ofNat l.column ++ ")".toList

end Loc

end MarkedText
