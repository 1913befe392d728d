import MarkedText.Capture.Replay
import MarkedText.Proofs.Marker.Diagnosis

/-!
# Reports on one line

The short form of a report is its code and its message. It stays on one line for every report that a
capture, a slice, a replay or a look-up by number ends in: what these take over from a raw text is a
line already, or is quoted. A look-up by label takes over the label as it was given, and so its report
breaks where the label does.

* `Report.newline_mem_oneLine`: the short form breaks where the message does.
* `Fault.oneLine_iff`: the faults whose report stays on one line.
* `oneLine_or_label`: what this says of each operation.
* `oneLine_brokenLabel`: a label with a line feed in it, looked up in vain.
-/

namespace MarkedText

theorem Report.newline_mem_oneLine (r : Report) : '\n' ∈ r.oneLine ↔ '\n' ∈ r.message := by
  have hname : '\n' ∉ r.code.name ++ ": ".toList :=
    List.not_mem_append r.code.newline_notMem_name (by decide)
  rw [oneLine, List.mem_append, or_iff_right hname]

/-- A label that is refused because it has been used holds no line feed. -/
theorem Flawed.newline_notMem_label {d : Delimiters} {used : List Text} {l t : Text}
    (h : Flawed d used (.duplicateLabel l) t) : '\n' ∉ l := by
  cases h with
  | duplicateLabel hc hl hu => exact newline_notMem_of_isLabel hl

/-! ## Messages -/

namespace Report

theorem newline_notMem_tooLarge (size limit : Int) : '\n' ∉ (tooLarge size limit).message := by
  have hsize : '\n' ∉ "Fixture of ".toList ++ Text.ofInt size :=
    List.not_mem_append (by decide) (Text.newline_notMem_ofInt size)
  exact List.not_mem_append (List.not_mem_append hsize (by decide)) (Text.newline_notMem_ofInt limit)

theorem newline_notMem_cursorOrder (start stop : Int) :
    '\n' ∉ (cursorOrder start stop).message := by
  have hstop : '\n' ∉ "take_until() target at index ".toList ++ Text.ofInt stop :=
    List.not_mem_append (by decide) (Text.newline_notMem_ofInt stop)
  exact List.not_mem_append (List.not_mem_append hstop (by decide)) (Text.newline_notMem_ofInt start)

theorem newline_notMem_exhausted (count : Int) : '\n' ∉ (exhausted count).message := by
  have hcount : '\n' ∉ "Marker iterator exhausted after ".toList ++ Text.ofInt count :=
    List.not_mem_append (by decide) (Text.newline_notMem_ofInt count)
  exact List.not_mem_append hcount (by decide)

theorem newline_notMem_notFound_index (n count : Int) :
    '\n' ∉ (notFound (.index n) count).message := by
  have hindex : '\n' ∉ "Marker index ".toList ++ Text.ofInt n :=
    List.not_mem_append (by decide) (Text.newline_notMem_ofInt n)
  have hcount : '\n' ∉ "Marker index ".toList ++ Text.ofInt n ++ " out of range for ".toList ++
      Text.ofInt count :=
    List.not_mem_append (List.not_mem_append hindex (by decide)) (Text.newline_notMem_ofInt count)
  exact List.not_mem_append hcount (by decide)

/-- The label is neither quoted nor checked. -/
theorem newline_mem_notFound_label (label : Text) (count : Int) :
    '\n' ∈ (notFound (.label label) count).message ↔ '\n' ∈ label := by
  have hfront : '\n' ∉ "Marker label '".toList := by decide
  have hback : '\n' ∉ "' not found".toList := by decide
  have hmessage : (notFound (.label label) count).message =
      "Marker label '".toList ++ label ++ "' not found".toList := rfl
  rw [hmessage, List.mem_append, List.mem_append, or_iff_right hfront, or_iff_left hback]

end Report

/-! ## Faults -/

namespace Fault

/-- The report of the fault, if it has one, is written on one line. -/
def OneLine (f : Fault) : Prop := ∀ r, f.report? = some r → '\n' ∉ r.oneLine

/-- A fault may break its line in two ways: it takes over a whole report, or a label. -/
theorem oneLine_iff (f : Fault) : f.OneLine ↔ match f with
    | .malformed r => '\n' ∉ r.message
    | .unknownMarker (.label label) _ => '\n' ∉ label
    | _ => True := by
  have hreport : ∀ r, f.report? = some r → (f.OneLine ↔ '\n' ∉ r.message) := by
    intro r hr
    rw [OneLine, hr, ← r.newline_mem_oneLine]
    exact ⟨fun h => h r rfl, fun h r' hr' => Option.some.inj hr' ▸ h⟩
  cases f with
  | malformed r => exact hreport r rfl
  | crossDocument => exact (hreport _ rfl).trans (iff_true_intro (by decide))
  | cursorOrder start stop =>
    exact (hreport _ rfl).trans (iff_true_intro (Report.newline_notMem_cursorOrder _ _))
  | exhausted count =>
    exact (hreport _ rfl).trans (iff_true_intro (Report.newline_notMem_exhausted _))
  | unknownMarker key count =>
    cases key with
    | index n =>
      exact (hreport _ rfl).trans (iff_true_intro (Report.newline_notMem_notFound_index n _))
    | label label =>
      exact (hreport _ rfl).trans (not_congr (Report.newline_mem_notFound_label label _))
  | _ => exact iff_true_intro fun r hr => by cases hr

end Fault

/-! ## Operations -/

theorem Capture.oneLine_of_ofRaw {rules : Rules} {serial : Nat} {raw : Text} {f : Fault}
    (h : ofRaw rules serial raw = .error f) : f.OneLine := by
  rcases ofRaw_eq_error_iff.1 h with ⟨-, rfl⟩ | ⟨-, m, hm, rfl⟩
  · exact (Fault.oneLine_iff _).2 (Report.newline_notMem_tooLarge _ _)
  · obtain ⟨t, rest, -, -, hf, -⟩ := strip_eq_error_iff.1 hm
    have hl : ∀ l, m.flaw = .duplicateLabel l → '\n' ∉ l := by
      intro l he
      rw [he] at hf
      exact hf.newline_notMem_label
    obtain ⟨code, message, hint, hr, hmessage, -⟩ :=
      Malformed.report_located rules.delimiters (.ofText serial raw) hl
    rw [Fault.oneLine_iff, hr]
    exact hmessage

theorem Cursor.oneLine_of_at? {d : Document} {i : Int} {f : Fault} (h : at? d i = .error f) :
    f.OneLine := by
  unfold at? at h
  split at h
  · cases h
  · cases h
    exact (Fault.oneLine_iff _).2 trivial

theorem Cursor.oneLine_of_takeUntil {a b : Cursor} {f : Fault} (h : a.takeUntil b = .error f) :
    f.OneLine := by
  unfold takeUntil at h
  split at h
  · cases h
    exact (Fault.oneLine_iff _).2 trivial
  split at h
  · cases h
    exact (Fault.oneLine_iff _).2 trivial
  · cases h

theorem Replay.oneLine_of_next {r : Replay} {f : Fault} (h : r.next.2 = .error f) : f.OneLine := by
  unfold next take at h
  split at h
  · exact Cursor.oneLine_of_at? h
  · cases h
    exact (Fault.oneLine_iff _).2 trivial

theorem Capture.oneLine_of_cursorAt {c : Capture} {i : Int} {f : Fault}
    (h : c.cursorAt i = .error f) : f.OneLine := by
  unfold cursorAt at h
  split at h
  · exact Cursor.oneLine_of_at? h
  · cases h
    exact (Fault.oneLine_iff _).2 trivial

theorem Capture.oneLine_iff_of_cursorNamed {c : Capture} {label : Text} {f : Fault} {r : Report}
    (h : c.cursorNamed label = .error f) (hr : f.report? = some r) :
    '\n' ∈ r.oneLine ↔ '\n' ∈ label := by
  unfold cursorNamed at h
  split at h
  · unfold Cursor.at? at h
    split at h
    · cases h
    · cases h
      cases hr
  · cases h
    cases hr
    rw [Report.newline_mem_oneLine, Report.newline_mem_notFound_label]

/-- **One line.** What goes wrong in a capture, in a slice, in the next call of a replay or in a
look-up by number is reported on one line. What goes wrong in a look-up by label is so exactly when
the label is on one line itself. -/
theorem oneLine_or_label (rules : Rules) (serial : Nat) (raw : Text) (a b : Cursor) (p : Replay)
    (c : Capture) (i : Int) (label : Text) :
    (∀ f, Capture.ofRaw rules serial raw = .error f → f.OneLine) ∧
    (∀ f, a.takeUntil b = .error f → f.OneLine) ∧
    (∀ f, p.next.2 = .error f → f.OneLine) ∧
    (∀ f, c.cursorAt i = .error f → f.OneLine) ∧
    ∀ f r, c.cursorNamed label = .error f → f.report? = some r →
      ('\n' ∈ r.oneLine ↔ '\n' ∈ label) :=
  ⟨fun _ h => Capture.oneLine_of_ofRaw h, fun _ h => Cursor.oneLine_of_takeUntil h,
    fun _ h => Replay.oneLine_of_next h, fun _ h => Capture.oneLine_of_cursorAt h,
    fun _ _ h hr => Capture.oneLine_iff_of_cursorNamed h hr⟩

/-- A label with a line feed in it is not found, and the report of that takes two lines. -/
theorem oneLine_brokenLabel :
    ∃ c f r, Capture.ofRaw .standard 0 "a🌵(x)b".toList = .ok c ∧
      c.cursorNamed "a\nb".toList = .error f ∧ f.report? = some r ∧
      r.oneLine = "MARKER_NOT_FOUND: Marker label 'a\nb' not found".toList ∧ '\n' ∈ r.oneLine := by
  have hc : Capture.ofRaw .standard 0 "a🌵(x)b".toList =
      .ok ⟨.ofText 0 "ab".toList, [⟨1, some "x".toList, 1⟩]⟩ := by rfl
  refine ⟨_, _, _, hc, rfl, rfl, rfl, ?_⟩
  decide

end MarkedText
