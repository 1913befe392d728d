import MarkedText.Marker.Basic

/-!
# Scanning for markers

A scan reads a raw text once, one code point at a time, and tells markers from text. A glyph opens a
marker and cannot be escaped: the opener has to follow, then a label or nothing, then the closer on
the same line. The first malformed marker ends the scan.

The order of judgement on a marker is: no opener behind the glyph; no closer before the line ends;
a label with code points that do not belong in one; a label used before.

* `run_append`: scanning two texts is going on with the second where the first left off.
* `run_refused`: once refused, always refused.
-/

namespace MarkedText

/-- What is wrong with a marker. -/
inductive Flaw where
  | bareGlyph
  | unterminated
  | invalidLabel (label : Text)
  | duplicateLabel (label : Text)
  deriving DecidableEq, Repr

/-- A malformed marker: where its glyph stands in the raw text, and what is wrong. -/
structure Malformed where
  start : Nat
  flaw : Flaw
  deriving DecidableEq, Repr

/-- A text without its markers, and where they were. -/
structure Stripped where
  clean : Text
  markers : List Marker
  deriving DecidableEq, Repr

/-- What a scan is in the middle of. The label read so far is held last code point first. -/
inductive Scan.Mode where
  | plain
  | glyph (start : Nat)
  | label (start : Nat) (read : Text)
  | refused (m : Malformed)
  deriving DecidableEq, Repr

/-- A scan under way: the clean text and the markers so far, both last first, the lengths of what
has been kept and read, and the mode. -/
structure Scan where
  clean : Text
  cleanSize : Nat
  size : Nat
  markers : List Marker
  mode : Scan.Mode
  deriving DecidableEq, Repr

namespace Scan

/-- Before the first code point. -/
def start : Scan := ⟨[], 0, 0, [], .plain⟩

/-- Records the marker whose glyph stands at `start` and goes back to reading text. -/
def record (s : Scan) (start : Nat) (label : Option Text) : Scan :=
  { s with markers := ⟨s.cleanSize, label, start⟩ :: s.markers, mode := .plain }

/-- Ends the marker at `start` with the label `label`, empty if it has none. -/
def close (s : Scan) (start : Nat) (label : Text) : Scan :=
  if label.isEmpty then s.record start none
  else if ¬ isLabel label then { s with mode := .refused ⟨start, .invalidLabel label⟩ }
  else if Marker.used label s.markers then
    { s with mode := .refused ⟨start, .duplicateLabel label⟩ }
  else s.record start (some label)

/-- What `c` means in the present mode. -/
def read (d : Delimiters) (s : Scan) (c : Char) : Scan :=
  match s.mode with
  | .plain =>
    if c = d.glyph then { s with mode := .glyph s.size }
    else { s with clean := c :: s.clean, cleanSize := s.cleanSize + 1 }
  | .glyph start =>
    if c = d.opener then { s with mode := .label start [] }
    else { s with mode := .refused ⟨start, .bareGlyph⟩ }
  | .label start read =>
    if c = d.closer then s.close start read.reverse
    else if c = '\n' then { s with mode := .refused ⟨start, .unterminated⟩ }
    else { s with mode := .label start (c :: read) }
  | .refused _ => s

/-- One code point further. -/
def step (d : Delimiters) (s : Scan) (c : Char) : Scan :=
  let next := s.read d c
  { next with size := next.size + 1 }

/-- The scan after a whole text. -/
def run (d : Delimiters) (s : Scan) (t : Text) : Scan := t.foldl (step d) s

/-- The outcome when the raw text ends here. -/
def finish (s : Scan) : Except Malformed Stripped :=
  match s.mode with
  | .plain => .ok ⟨s.clean.reverse, s.markers.reverse⟩
  | .glyph start => .error ⟨start, .bareGlyph⟩
  | .label start _ => .error ⟨start, .unterminated⟩
  | .refused m => .error m

@[simp] theorem run_nil (d : Delimiters) (s : Scan) : run d s [] = s := rfl

@[simp] theorem run_cons (d : Delimiters) (s : Scan) (c : Char) (t : Text) :
    run d s (c :: t) = run d (step d s c) t := rfl

theorem run_append (d : Delimiters) (s : Scan) (t u : Text) :
    run d s (t ++ u) = run d (run d s t) u := by
  simp [run]

theorem step_refused {d : Delimiters} {s : Scan} {m : Malformed} (h : s.mode = .refused m)
    (c : Char) : (step d s c).mode = .refused m := by
  simp [step, read, h]

theorem run_refused {d : Delimiters} {s : Scan} {m : Malformed} (h : s.mode = .refused m)
    (t : Text) : (run d s t).mode = .refused m := by
  induction t generalizing s with
  | nil => exact h
  | cons c t ih => exact ih (step_refused h c)

theorem size_step (d : Delimiters) (s : Scan) (c : Char) : (step d s c).size = s.size + 1 := by
  have hclose : ∀ start label, (s.close start label).size = s.size := by
    intro start label
    unfold close
    repeat' split
    all_goals rfl
  simp only [step, read]
  repeat' split
  all_goals simp [hclose]

/-- A scan knows how much it has read. -/
theorem size_run (d : Delimiters) (s : Scan) (t : Text) : (run d s t).size = s.size + t.length := by
  induction t generalizing s with
  | nil => rfl
  | cons c t ih => rw [run_cons, ih, size_step, List.length_cons]; omega

end Scan

/-- A raw text without its markers, or its first malformed marker. -/
def strip (d : Delimiters) (raw : Text) : Except Malformed Stripped := (Scan.start.run d raw).finish

end MarkedText
