import MarkedText.Proofs.Document.Snippet
import MarkedText.Proofs.Marker.Reading

/-!
# A malformed marker is a matter of its line

A line feed ends every marker: behind it a scan reads text, or has been refused. So what a text holds
behind the line of its first malformed marker plays no part, neither in finding the marker nor in the
report on it: the line and the place of the marker are the same, and that line is not the last one.

* `step_newline_mode`: what a line feed leaves of a scan.
* `size_le_start`: a scan that reads text finds fault with what comes, not with what was.
* `strip_error_of_line`: the malformed marker is found again whatever the later lines are.
* `Malformed.report_congr`: a report goes by the place and the snippet of its marker.
* `ofRaw_error_of_line`: a rejected text is rejected with the same report whatever the later lines are.
-/

namespace MarkedText

open Text

/-! ## Finding the marker -/

namespace Scan

variable {d : Delimiters} {s : Scan} {t : Text} {m : Malformed}

theorem step_newline_mode (d : Delimiters) (s : Scan) :
    (s.mode = .plain ∧ (step d s '\n').mode = .plain) ∨
      ∃ m, (step d s '\n').mode = .refused m := by
  cases hm : s.mode with
  | plain =>
    left
    rw [step_piece hm d.glyph_ne_newline.symm]
    exact ⟨rfl, hm⟩
  | glyph start => exact Or.inr ⟨_, step_not_opener hm d.opener_ne_newline.symm⟩
  | label start read => exact Or.inr ⟨_, step_newline hm⟩
  | refused m => exact Or.inr ⟨m, step_refused hm '\n'⟩

theorem size_le_start (hm : s.mode = .plain) (h : (run d s t).finish = .error m) :
    s.size ≤ m.start := by
  obtain ⟨head, ps, hh, hfits, ht⟩ := exists_tail_reading d (Marker.labels s.markers) t
  rcases ht with rfl | ⟨f, rest, rfl, hf⟩
  · rw [run_template hm hh hfits] at h
    simp [finish, hm] at h
  · rw [finish_template_flawed hm hh hfits hf] at h
    obtain rfl := Except.error.inj h
    exact Nat.le_add_right ..

end Scan

/-- Behind the line feed the scan has been refused: were it reading text there, it would find fault
only with later lines. -/
theorem strip_error_of_line {d : Delimiters} {p q : Text} {m : Malformed}
    (h : strip d (p ++ '\n' :: q) = .error m) (hm : m.start < p.length) (q' : Text) :
    strip d (p ++ '\n' :: q') = .error m := by
  have hrun : ∀ t, Scan.start.run d (p ++ '\n' :: t) =
      ((Scan.start.run d p).step d '\n').run d t := by
    intro t
    rw [Scan.run_append, Scan.run_cons]
  rw [strip, hrun] at h ⊢
  rcases Scan.step_newline_mode d (Scan.start.run d p) with ⟨-, hmode⟩ | ⟨m', hmode⟩
  · have hsize := Scan.size_le_start hmode h
    rw [Scan.size_step, Scan.size_run] at hsize
    simp only [Scan.start] at hsize
    omega
  · rw [Scan.finish_refused (Scan.run_refused hmode q)] at h
    rw [Scan.finish_refused (Scan.run_refused hmode q')]
    exact h

/-! ## Reporting on it -/

/-- A report goes by the place and the snippet of its marker. -/
theorem Malformed.report_congr (d : Delimiters) {raw raw' : Document} {m : Malformed}
    (hplace : raw.table.locate m.start = raw'.table.locate m.start)
    (hsnippet : raw.snippet m.start 0 caretSign = raw'.snippet m.start 0 caretSign) :
    m.report d raw = m.report d raw' := by
  have hspan : m.span raw = m.span raw' := by
    simp only [span, hplace]
  unfold report
  rw [hspan, hsnippet]

/-- **Later lines.** When a text is rejected for a marker that starts in front of a line feed, it is
rejected with the very same report whatever stands behind that line feed. -/
theorem ofRaw_error_of_line {rules : Rules} (serial serial' : Nat) {p q q' : Text} {r : Report}
    {span : Report.Span} (hsize : (p ++ '\n' :: q').length ≤ rules.sizeLimit)
    (h : Capture.ofRaw rules serial (p ++ '\n' :: q) = .error (.malformed r))
    (hspan : r.span = some span) (hstart : span.start < p.length) :
    Capture.ofRaw rules serial' (p ++ '\n' :: q') = .error (.malformed r) := by
  rcases Capture.ofRaw_eq_error_iff.1 h with ⟨-, he⟩ | ⟨-, m, hm, he⟩
  · obtain rfl := Fault.malformed.inj he
    cases hspan
  · obtain rfl := Fault.malformed.inj he
    rw [Malformed.report_span] at hspan
    obtain rfl := Option.some.inj hspan
    rw [Malformed.span_start] at hstart
    refine Capture.ofRaw_eq_error_iff.2 (Or.inr ⟨hsize, m, strip_error_of_line hm hstart q', ?_⟩)
    refine congrArg Fault.malformed (Malformed.report_congr _ ?_ ?_)
    · obtain ⟨n, row, hrow, hlo, hhi⟩ := exists_row (Nat.le_of_lt hstart)
      rw [Document.table_eq_ofText, Document.table_eq_ofText, Document.text_ofText,
        Document.text_ofText, LineTable.locate_append_newline hrow hlo hhi,
        LineTable.locate_append_newline hrow hlo hhi]
    · exact Document.snippet_append_newline (Nat.le_of_lt hstart) serial serial' q q' caretSign

/-- Its closer on a later line, or none at all: to an open marker it is the same. -/
theorem ofRaw_error_of_line_unterminated :
    ∃ r, Capture.ofRaw .standard 0 "a\n\t🌵(b\r\n".toList = .error (.malformed r) ∧
      r.code = .unterminated ∧
      Capture.ofRaw .standard 1 "a\n\t🌵(b\r\n)🌵\n🌵(c".toList = .error (.malformed r) := by
  have h : Capture.ofRaw .standard 0 ("a\n\t🌵(b\r".toList ++ '\n' :: []) = .error (.malformed
      ((Malformed.mk 3 .unterminated).report .standard
        (.ofText 0 ("a\n\t🌵(b\r".toList ++ '\n' :: [])))) := by rfl
  refine ⟨_, h, rfl, ?_⟩
  show Capture.ofRaw .standard 1 ("a\n\t🌵(b\r".toList ++ '\n' :: ")🌵\n🌵(c".toList) = _
  exact ofRaw_error_of_line 0 1 (by decide) h rfl (by decide)

end MarkedText
