/-!
# Tables of code point ranges

A class of code points that has no short rule is given as a table of inclusive ranges.

* `covers_iff`: a code point belongs to a table exactly when one of the ranges covers it.
-/

namespace MarkedText

/-- Inclusive ranges of code points. -/
abbrev Ranges := List (Nat × Nat)

namespace Ranges

/-- The range of the table that covers `n`, if any. -/
def range? (table : Ranges) (n : Nat) : Option (Nat × Nat) :=
  List.find? (fun r => decide (r.1 ≤ n ∧ n ≤ r.2)) table

/-- Whether some range of the table covers the code point. -/
def covers (table : Ranges) (c : Char) : Bool := (table.range? c.toNat).isSome

theorem covers_iff (table : Ranges) (c : Char) :
    table.covers c = true ↔ ∃ r ∈ table, r.1 ≤ c.toNat ∧ c.toNat ≤ r.2 := by
  simp [covers, range?]

end Ranges

end MarkedText
