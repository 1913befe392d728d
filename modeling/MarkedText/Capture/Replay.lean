import MarkedText.Capture.Basic

/-!
# Replays

A replay goes through the markers of a capture in order and gives a new cursor for each. It counts a
marker as used before it places the cursor, so a marker whose offset lies outside the document is
skipped by the failure that it causes. Any number of replays of one capture go on independently.

* `next_eq`, `next_of_drop`: the marker at the position is placed, and the position moves on.
* `next_exhausted`: behind the last marker every call fails and nothing changes.
* `position_add_remaining`: used and remaining markers add up to all of them.
-/

namespace MarkedText

structure Replay where
  capture : Capture
  position : Nat
  deriving DecidableEq

namespace Replay

/-- A new replay of a capture. -/
def ofCapture (c : Capture) : Replay := ⟨c, 0⟩

/-- How many markers have not been used yet. -/
def remaining (r : Replay) : Nat := r.capture.markers.length - r.position

/-- Uses the next marker; `atEnd` is the fault when there is none. -/
def take (atEnd : Fault) (r : Replay) : Replay × Except Fault Cursor :=
  match r.capture.markers[r.position]? with
  | some m => ({ r with position := r.position + 1 }, Cursor.at? r.capture.document m.offset)
  | none => (r, .error atEnd)

/-- The cursor at the next marker. Asking for one too many is misuse. -/
def next (r : Replay) : Replay × Except Fault Cursor :=
  r.take (.exhausted r.capture.markers.length)

/-- The cursor at the next marker, for loops: at the end the replay has merely finished. -/
def nextOrFinished (r : Replay) : Replay × Except Fault Cursor := r.take .finished

/-- Places cursors at the given markers until one fails. The count is of the markers used, the one
that failed included. -/
def placeAll (d : Document) : List Marker → Nat → List Cursor → Nat × Except Fault (List Cursor)
  | [], n, placed => (n, .ok placed.reverse)
  | m :: ms, n, placed =>
    match Cursor.at? d m.offset with
    | .ok c => placeAll d ms (n + 1) (c :: placed)
    | .error f => (n + 1, .error f)

/-- Uses all markers that remain. -/
def drain (r : Replay) : Replay × Except Fault (List Cursor) :=
  let all := placeAll r.capture.document (r.capture.markers.drop r.position) r.position []
  ({ r with position := all.1 }, all.2)

theorem next_eq {r : Replay} {m : Marker} (h : r.capture.markers[r.position]? = some m) :
    r.next = ({ r with position := r.position + 1 }, Cursor.at? r.capture.document m.offset) := by
  simp only [next, take, h]

/-- Where the markers that are left are known, so is the next cursor. -/
theorem next_of_drop {r : Replay} {n : Nat} {label : Option Text} {m : Int} {ms : List Marker}
    (hm : r.capture.markers.drop r.position = ⟨n, label, m⟩ :: ms)
    (hn : n ≤ r.capture.document.size) :
    r.next = (⟨r.capture, r.position + 1⟩, .ok ⟨r.capture.document, n, hn⟩) ∧
      r.capture.markers.drop (r.position + 1) = ms := by
  constructor
  · have hfirst : r.capture.markers[r.position]? = some ⟨n, label, m⟩ := by
      rw [← List.head?_drop, hm]
      rfl
    rw [next_eq hfirst]
    exact congrArg (Prod.mk _) (Cursor.at?_index ⟨r.capture.document, n, hn⟩)
  · rw [← List.drop_drop, hm]
    rfl

theorem next_exhausted {r : Replay} (h : r.capture.markers.length ≤ r.position) :
    r.next = (r, .error (.exhausted r.capture.markers.length)) := by
  simp only [next, take, List.getElem?_eq_none h]

theorem take_capture (atEnd : Fault) (r : Replay) : (r.take atEnd).1.capture = r.capture := by
  unfold take; split <;> rfl

theorem position_add_remaining {r : Replay} (h : r.position ≤ r.capture.markers.length) :
    r.position + r.remaining = r.capture.markers.length := by
  unfold remaining; omega

end Replay

/-- The cursors of a new replay. -/
def Capture.cursors (c : Capture) : Except Fault (List Cursor) := (Replay.ofCapture c).drain.2

end MarkedText
