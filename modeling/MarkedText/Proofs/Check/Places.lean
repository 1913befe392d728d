import Mathlib.Data.List.DropRight
import MarkedText.Check.Fixture
import MarkedText.Proofs.Document.Location
import MarkedText.Proofs.Marker.Reading

/-!
# Places of markers in fixtures

The check on locations works on the clean text, where the first marker has no width. As nothing
stands in front of that marker but plain text, its place there is its place in the fixture as it was
written, whatever labels and markers come behind it.

* `Loc.origin_after`: the place behind a text, by counting its line feeds.
* `Harness.firstOf_capture`: whether a capture has a first cursor, and where.
* `Harness.locCheck_of_first`: the check once the first cursor is there.
* `Harness.locCheck_verdict`: the main result.
-/

namespace MarkedText

/-- A text up to the first `c` in it. -/
theorem takeWhile_ne_append {c : Char} {head : Text} (h : c ∉ head) (rest : Text) :
    (head ++ c :: rest).takeWhile (· ≠ c) = head := by
  have hhead : ∀ x ∈ head, decide (x ≠ c) = true := by
    intro x hx
    apply decide_eq_true
    intro he
    exact h (he ▸ hx)
  rw [List.takeWhile_append_of_pos hhead]
  simp

/-- The line is counted by the line feeds, the column from the last of them on. -/
theorem Loc.origin_after (t : Text) :
    origin.after t = ⟨t.count '\n' + 1, (t.rtakeWhile (· ≠ '\n')).length + 1⟩ := by
  induction t using List.reverseRecOn with
  | nil => rfl
  | append_singleton t c ih =>
    have hlast : origin.after (t ++ [c]) = (origin.after t).step c := by
      rw [after_append]
      rfl
    rw [hlast, ih, step, List.count_append, List.rtakeWhile_concat]
    by_cases hc : c = '\n' <;> simp [hc]

namespace Harness

variable {h : Harness} {fixture : Text}

/-! ## The first cursor -/

theorem firstOf_plain {c : Capture} (hm : c.markers = []) : firstOf c = .error (.exhausted 0) := by
  have hend : (Replay.ofCapture c).capture.markers.length ≤ (Replay.ofCapture c).position := by
    rw [Replay.ofCapture, hm]
    exact Nat.le_refl 0
  rw [firstOf, Replay.next_exhausted hend, Replay.ofCapture, hm]
  rfl

/-- The first marker stands behind the head. -/
theorem firstOf_template (serial : Nat) (d : Delimiters) (head : Text) (p : Option Text × Text)
    (ps : List (Option Text × Text)) :
    ∃ x : Cursor,
      firstOf ⟨.ofText serial (Template.clean ⟨head, p :: ps⟩), Template.markers d ⟨head, p :: ps⟩⟩ =
        .ok x ∧ x.loc = Loc.origin.after head := by
  let document := Document.ofText serial (Template.clean ⟨head, p :: ps⟩)
  have htext : document.text = head ++ (p :: ps).flatMap Prod.snd := Document.text_ofText ..
  have hle : head.length ≤ document.text.length := by
    rw [Document.text_ofText]
    exact Template.length_head_le ⟨head, p :: ps⟩
  have hsize : head.length ≤ document.size := by rwa [Document.size_eq]
  refine ⟨⟨document, head.length, hsize⟩, ?_, ?_⟩
  · let r := Replay.ofCapture ⟨document, Template.markers d ⟨head, p :: ps⟩⟩
    exact congrArg Prod.snd (r.next_of_drop rfl hsize).1
  · rw [Cursor.loc, Document.table_eq_ofText, LineTable.locate_eq_after hle, htext, List.take_left]

/-- The first cursor of a capture stands at the first glyph of the raw text, if there is one. -/
theorem firstOf_capture {raw : Text} {c : Capture} (hc : h.capture raw = .ok c) :
    if h.rules.delimiters.glyph ∈ raw then
      ∃ x, firstOf c = .ok x ∧
        x.loc = Loc.origin.after (raw.takeWhile (· ≠ h.rules.delimiters.glyph))
    else firstOf c = .error (.exhausted 0) := by
  obtain ⟨-, ⟨head, tail⟩, hv, rfl, rfl⟩ := Capture.ofRaw_eq_ok_iff.1 hc
  cases tail with
  | nil =>
    have hplain : h.rules.delimiters.glyph ∉ Template.render h.rules.delimiters ⟨head, []⟩ := by
      rw [Template.render, List.flatMap_nil, List.append_nil]
      exact hv.head_plain
    rw [if_neg hplain]
    exact firstOf_plain rfl
  | cons p ps =>
    obtain ⟨rest, hcut⟩ : ∃ rest, Template.render h.rules.delimiters ⟨head, p :: ps⟩ =
        head ++ h.rules.delimiters.glyph :: rest := by
      rw [Template.render_cons, List.append_assoc]
      exact ⟨_, rfl⟩
    have hmem : h.rules.delimiters.glyph ∈ head ++ h.rules.delimiters.glyph :: rest :=
      List.mem_append_right _ (List.mem_cons_self ..)
    rw [hcut, if_pos hmem, takeWhile_ne_append hv.head_plain]
    exact firstOf_template 0 h.rules.delimiters head p ps

/-! ## The check -/

/-- Once the cursor is there, the check compares two numbers with two numbers. -/
theorem locCheck_of_first {x : Cursor} (hx : h.first fixture = .ok x) (line column : Int) :
    if line = x.loc.line ∧ column = x.loc.column then h.locCheck fixture line column = .ok ()
    else ∃ m, h.locCheck fixture line column = .error (.mismatch m) := by
  have hcheck : h.locCheck fixture line column = (do
      h.check (.integer x.loc.line) (.integer line) (some x)
      h.check (.integer x.loc.column) (.integer column) (some x)) := by
    rw [locCheck, hx]
    rfl
  have hpass : h.locCheck fixture line column = .ok () ↔
      line = x.loc.line ∧ column = x.loc.column := by
    rw [hcheck, seq_eq_ok_iff, check_integer_ok_iff, check_integer_ok_iff, eq_comm,
      @eq_comm _ (x.loc.column : Int)]
  split
  · next hplace => exact hpass.2 hplace
  · next hplace =>
    obtain hline | ⟨m, hm⟩ :=
      h.check_ok_or_mismatch (.integer x.loc.line) (.integer line) (some x)
    · obtain hcolumn | ⟨m, hm⟩ :=
        h.check_ok_or_mismatch (.integer x.loc.column) (.integer column) (some x)
      · exact absurd (hpass.1 (hcheck.trans (seq_eq_ok_iff.2 ⟨hline, hcolumn⟩))) hplace
      · rw [hcheck, hline]
        exact ⟨m, hm⟩
    · rw [hcheck, hm]
      exact ⟨m, rfl⟩

/-- **Judging a location.** A fixture that is rejected, or that holds no glyph, is no matter of
location. In any other one, the check passes for the place of the first glyph of the raw text, and
for no other numbers. -/
theorem locCheck_verdict (h : Harness) (fixture : Text) (line column : Int) :
    let raw := Text.trimBreaks fixture
    let front := raw.takeWhile (· ≠ h.rules.delimiters.glyph)
    match h.capture raw with
    | .error f => (∃ r, f = .malformed r) ∧ h.locCheck fixture line column = .error f
    | .ok _ =>
      if h.rules.delimiters.glyph ∉ raw then h.locCheck fixture line column = .error (.exhausted 0)
      else if line = front.count '\n' + 1 ∧ column = (front.rtakeWhile (· ≠ '\n')).length + 1 then
        h.locCheck fixture line column = .ok ()
      else ∃ m, h.locCheck fixture line column = .error (.mismatch m) := by
  intro raw front
  have hfirst : h.first fixture = h.capture raw >>= firstOf := rfl
  cases hc : h.capture raw with
  | error f =>
    rw [hc] at hfirst
    refine ⟨?_, ?_⟩
    · rcases Capture.ofRaw_eq_error_iff.1 hc with ⟨-, rfl⟩ | ⟨-, m, -, rfl⟩ <;> exact ⟨_, rfl⟩
    · rw [locCheck, hfirst]
      rfl
  | ok c =>
    have hmarker := firstOf_capture hc
    rw [hc] at hfirst
    by_cases hg : h.rules.delimiters.glyph ∈ raw
    · rw [if_pos hg] at hmarker
      obtain ⟨x, hx, hloc⟩ := hmarker
      have hjudged := locCheck_of_first (hfirst.trans hx) line column
      rw [hloc, Loc.origin_after] at hjudged
      simp only [not_not.2 hg, if_false]
      exact hjudged
    · rw [if_neg hg] at hmarker
      simp only [hg, not_false_eq_true, if_true]
      rw [locCheck, hfirst.trans hmarker]
      rfl

end Harness

end MarkedText
