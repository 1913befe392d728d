import MarkedText.Cursor
import MarkedText.Marker.Report
import MarkedText.Value

/-!
# Captures

A capture is a clean document and the markers that were taken out of its raw text. Its markers are
looked up by number or by label; each look-up gives a new cursor.

* `ofRaw_eq`: a raw text within the limit is captured by stripping it.
* `cursorAt_eq`: looking up by number is reading the list of markers.
* `labels_eq`: the labels are those of the markers that have one.
-/

namespace MarkedText

structure Capture where
  document : Document
  markers : List Marker
  deriving DecidableEq

namespace Capture

/-! ## Capturing -/

/-- The report on a raw text that is longer than the rules allow. -/
def sizeReport (rules : Rules) (raw : Text) : Report := .tooLarge raw.length rules.sizeLimit

/-- Strips a raw text; the clean document gets the serial number `serial`. -/
def ofRaw (rules : Rules) (serial : Nat) (raw : Text) : Except Fault Capture :=
  if rules.sizeLimit < raw.length then .error (.malformed (sizeReport rules raw))
  else
    match strip rules.delimiters raw with
    | .ok s => .ok ⟨.ofText serial s.clean, s.markers⟩
    | .error m => .error (.malformed (m.report rules.delimiters (.ofText serial raw)))

theorem ofRaw_eq {rules : Rules} {raw : Text} (h : raw.length ≤ rules.sizeLimit) (serial : Nat) :
    ofRaw rules serial raw = match strip rules.delimiters raw with
      | .ok s => .ok ⟨.ofText serial s.clean, s.markers⟩
      | .error m => .error (.malformed (m.report rules.delimiters (.ofText serial raw))) := by
  rw [ofRaw, if_neg (Nat.not_lt.2 h)]

theorem ofRaw_tooLarge {rules : Rules} {raw : Text} (h : rules.sizeLimit < raw.length)
    (serial : Nat) : ofRaw rules serial raw = .error (.malformed (sizeReport rules raw)) := by
  rw [ofRaw, if_pos h]

/-- What is noted of a raw text that has been captured or rejected; other faults are not noted. -/
def note : Except Fault Capture → Option Text
  | .ok c => some ("Captured fixture: ".toList ++ Text.ofNat c.markers.length ++
      " marker(s), ".toList ++ Text.ofNat c.document.size ++ " codepoint(s)".toList)
  | .error (.malformed r) => some ("Rejected fixture: ".toList ++ r.message)
  | .error _ => none

/-! ## Contents -/

/-- The offsets of the markers, in recorded order. -/
def positions (c : Capture) : List Int := c.markers.map Marker.offset

/-- The labels of the markers that have one, in recorded order. -/
def labels (c : Capture) : List Text := Marker.labels c.markers

/-- The clean text and the positions. -/
def repr (c : Capture) : Text :=
  "CaptureResult(doc=".toList ++ Text.quote c.document.text ++ ", positions=".toList ++
    (Value.tuple (c.positions.map .integer)).repr ++ ")".toList

theorem labels_eq (c : Capture) : c.labels = c.markers.filterMap Marker.label := rfl

/-! ## Look-up -/

/-- A cursor at marker number `i`, counted from zero. -/
def cursorAt (c : Capture) (i : Int) : Except Fault Cursor :=
  match (if 0 ≤ i then c.markers[i.toNat]? else none) with
  | some m => Cursor.at? c.document m.offset
  | none => .error (.unknownMarker (.index i) c.markers.length)

/-- A cursor at the first marker with the label. -/
def cursorNamed (c : Capture) (label : Text) : Except Fault Cursor :=
  match c.markers.find? fun m => m.label == some label with
  | some m => Cursor.at? c.document m.offset
  | none => .error (.unknownMarker (.label label) c.markers.length)

theorem cursorAt_eq {c : Capture} {n : Nat} {m : Marker} (h : c.markers[n]? = some m) :
    c.cursorAt n = Cursor.at? c.document m.offset := by
  have hn : (0 : Int) ≤ n := Int.natCast_nonneg n
  have he : (n : Int).toNat = n := Int.toNat_natCast n
  simp only [cursorAt, hn, he, if_true, h]

end Capture

end MarkedText
