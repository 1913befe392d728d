import MarkedText.Marker.Rules

/-!
# Markers

A marker stands at an offset of a clean text, may have a label, and remembers the offset of its
token in the raw text. Markers that are put together by hand may hold any integers; those of a
capture hold offsets of its texts.

* `isLabel_iff`: a label is a row of ASCII letters, digits, underscores and hyphens, at least one.
* `used_iff`: a label is used exactly when it is among the labels of the markers.
-/

namespace MarkedText

structure Marker where
  offset : Int
  label : Option Text
  sourceOffset : Int
  deriving DecidableEq, Repr

/-- The labels as a pattern, for messages. -/
def labelPattern : Text := "[A-Za-z0-9_-]+".toList

/-- A code point that may stand in a label. -/
def inLabel (c : Char) : Bool := c.isAlphanum || c == '_' || c == '-'

def isLabel (t : Text) : Bool := !t.isEmpty && t.all inLabel

theorem isLabel_iff (t : Text) : isLabel t = true ↔ t ≠ [] ∧ ∀ c ∈ t, inLabel c = true := by
  simp [isLabel]

namespace Marker

/-- The labels of those markers that have one, in order. -/
def labels (ms : List Marker) : List Text := ms.filterMap Marker.label

@[simp] theorem labels_nil : labels [] = [] := rfl

theorem labels_append (ms ns : List Marker) : labels (ms ++ ns) = labels ms ++ labels ns := by
  simp [labels]

/-- Whether some marker has the label. -/
def used (label : Text) (ms : List Marker) : Bool := ms.any fun m => m.label == some label

theorem used_iff (label : Text) (ms : List Marker) : used label ms = true ↔ label ∈ labels ms := by
  simp [used, labels]

/-- The marker `n` code points further on in the clean text and `m` in the raw one. -/
def shift (n m : Nat) (k : Marker) : Marker := ⟨k.offset + n, k.label, k.sourceOffset + m⟩

end Marker

end MarkedText
