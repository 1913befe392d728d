import MarkedText.Text.Basic

/-!
# Blank code points

The blanks that may stand around a number: the ASCII ones from tab to carriage return and the
space, and the separators of Unicode. The four ASCII information separators (U+001C to U+001F) are
not blank.

* `isBlank_of_isWhitespace`: everything that the core library calls white space is blank.
-/

namespace MarkedText.Text

/-- Tab, line feed, vertical tab, form feed, carriage return, and the spaces and separators of
Unicode. -/
def isBlank (c : Char) : Bool :=
  let n := c.toNat
  (9 ≤ n && n ≤ 13) || n == 0x20 || n == 0x85 || n == 0xa0 || n == 0x1680 ||
    (0x2000 ≤ n && n ≤ 0x200a) || n == 0x2028 || n == 0x2029 || n == 0x202f || n == 0x205f ||
    n == 0x3000

theorem isBlank_of_isWhitespace {c : Char} (h : c.isWhitespace = true) : isBlank c = true := by
  simp only [Char.isWhitespace, Bool.or_eq_true, decide_eq_true_eq] at h
  rcases h with ((rfl | rfl) | rfl) | rfl <;> decide

/-- The text without its leading blanks. -/
def dropBlanks (t : Text) : Text := t.dropWhile isBlank

end MarkedText.Text
