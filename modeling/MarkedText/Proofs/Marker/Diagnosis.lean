import MarkedText.Proofs.Marker.Reading
import MarkedText.Proofs.Report.Block

/-!
# What the report on a malformed marker shows

The report on a malformed marker is about a stretch of one line that starts with the glyph. It is put
together from operations that refuse some of their arguments, but never those of a report; and it is
written in five rows, with the caret under the glyph.

* `Flawed.exists_blamed`: the stretch that a flaw is about lies within its line.
* `Malformed.report_located`: message and hint hold no line feed, whatever the marker holds.
* `Malformed.built`, `Malformed.pointsAt`, `Malformed.drawn`: the three parts for one marker.
* `ofRaw_error_report`: the same for every fault of a capture.
-/

namespace MarkedText

/-- The place, the span and the snippet of a report are what the checked operations give for its
numbers. -/
structure Report.Built (raw : Document) (r : Report) (span : Report.Span) : Prop where
  locate : raw.table.locate? span.start = .ok ⟨span.line, span.column⟩
  ofInts : Report.Span.ofInts span.start span.stop span.line span.column = .ok span
  snippet : ∃ snippet, raw.snippet? span.start 0 caretSign = .ok snippet ∧ r.snippet = some snippet

/-- A span is a stretch of one line of the text, it starts with `c`, and its line and column are where
a walk over the text in front of it ends. -/
structure Report.Span.PointsAt (c : Char) (raw : Text) (span : Report.Span) : Prop where
  start_lt_stop : span.start < span.stop
  stop_le : span.stop ≤ raw.length
  glyph : raw[span.start]? = some c
  inline : '\n' ∉ (raw.drop span.start).take (span.stop - span.start)
  place : ⟨span.line, span.column⟩ = Loc.origin.after (raw.take span.start)

/-- The row of a line of the raw text in a written report, up to the text of the line. -/
def Report.lineMargin (n : Nat) : Text := "  ".toList ++ Text.ofNat n ++ " | ".toList

/-- What is said about a report has five rows: head, place, line, caret and hint. The caret ends its
row and stands under the `c` that the span starts with. -/
def Report.Drawn (c : Char) (raw : Text) (r : Report) (span : Report.Span) : Prop :=
  ∃ line stem hint : Text, IsLine raw span.line line ∧
    Text.splitLines (Fault.malformed r).message =
      ["error[".toList ++ r.code.name ++ "]: ".toList ++ r.message,
        "  --> line ".toList ++ Text.ofNat span.line ++ ", column ".toList ++
          Text.ofNat span.column,
        Report.lineMargin span.line ++ line,
        stem ++ ['^'],
        "  = help: ".toList ++ hint] ∧
    stem.length = (Report.lineMargin span.line).length + (span.column - 1) ∧
    (Report.lineMargin span.line ++ line)[stem.length]? = some c

/-! ## Flaws -/

variable {d : Delimiters} {used : List Text} {f : Flaw} {t : Text}

theorem Flawed.exists_blamed (h : Flawed d used f t) (start : Nat) :
    ∃ blamed rest, d.glyph :: t = blamed ++ rest ∧ '\n' ∉ blamed ∧
      blamed.length = (Malformed.mk start f).width := by
  cases h with
  | bareGlyph ht => exact ⟨[d.glyph], t, rfl, by simp [d.glyph_ne_newline.symm], rfl⟩
  | @unterminated body t hc hn ht =>
    refine ⟨[d.glyph, d.opener], body ++ t, rfl, ?_, rfl⟩
    simp [d.glyph_ne_newline.symm, d.opener_ne_newline.symm]
  | @invalidLabel l t hc hn hne hl =>
    exact ⟨d.token l, t, by simp [Delimiters.token], newline_notMem_token hn, d.length_token l⟩
  | @duplicateLabel l t hc hl hu =>
    exact ⟨d.token l, t, by simp [Delimiters.token],
      newline_notMem_token (newline_notMem_of_isLabel hl), d.length_token l⟩

namespace Malformed

variable {m : Malformed}

/-- Only the report on a label used before holds a part of the raw text as it is. -/
theorem report_located (d : Delimiters) (raw : Document)
    (hl : ∀ l, m.flaw = .duplicateLabel l → '\n' ∉ l) :
    ∃ (code : Report.Code) (message hint : Text),
      m.report d raw = .located code message (m.span raw) hint (raw.snippet m.start 0 caretSign) ∧
      '\n' ∉ message ∧ '\n' ∉ hint ∧ hint ≠ [] := by
  obtain ⟨start, flaw⟩ := m
  have hplace := Report.newline_notMem_atSpan ((Malformed.mk start flaw).span raw)
  cases flaw with
  | bareGlyph =>
    have hopener : '\n' ∉ [d.opener] := by simp [d.opener_ne_newline.symm]
    have htoken : '\n' ∉ d.token [] := newline_notMem_token List.not_mem_nil
    refine ⟨_, _, _, rfl, ?_, ?_, ?_⟩
    · have hhead : '\n' ∉ "Marker glyph".toList ++ Report.atSpan _ :=
        List.not_mem_append (by decide) hplace
      exact List.not_mem_append (List.not_mem_append (List.not_mem_append hhead (by decide)) hopener)
        (by decide)
    · exact List.not_mem_append (List.not_mem_append (by decide) htoken) (by decide)
    · simp
  | unterminated =>
    have hcloser : '\n' ∉ [d.closer] := by simp [d.closer_ne_newline.symm]
    refine ⟨_, _, _, rfl, ?_, ?_, ?_⟩
    · exact List.not_mem_append (by decide) hplace
    · exact List.not_mem_append (List.not_mem_append (by decide) hcloser) (by decide)
    · simp
  | invalidLabel l =>
    have hquote : '\n' ∉ Text.quote l := (Text.lineEnd_notMem_quote l).1
    refine ⟨_, _, _, rfl, ?_, ?_, ?_⟩
    · exact List.not_mem_append (List.not_mem_append (by decide) hquote) hplace
    · exact List.not_mem_append (by decide) (by decide)
    · simp
  | duplicateLabel l =>
    refine ⟨_, _, _, rfl, ?_, ?_, ?_⟩
    · have hlabel : '\n' ∉ "Duplicate marker label '".toList ++ l :=
        List.not_mem_append (by decide) (hl l rfl)
      exact List.not_mem_append (List.not_mem_append hlabel (by decide)) hplace
    · decide
    · decide

/-! ## One marker -/

variable (d : Delimiters) (raw : Document)

theorem built (h : m.start ≤ raw.text.length) (hl : ∀ l, m.flaw = .duplicateLabel l → '\n' ∉ l) :
    (m.report d raw).Built raw (m.span raw) := by
  have hsize : m.start ≤ raw.size := by rwa [Document.size_eq]
  have hrange : (0 : Int) ≤ m.start ∧ (m.start : Int) ≤ raw.table.length := by
    rw [raw.table_length]
    omega
  obtain ⟨code, message, hint, hr, -⟩ := report_located d raw hl
  refine ⟨?_, Report.Span.ofInts_toInts _, _, Document.snippet?_eq_ok hsize caretSign, ?_⟩
  · rw [span_place, span_start, LineTable.locate?, if_pos hrange]
    rfl
  · rw [hr]
    rfl

theorem pointsAt {front rest : Text} (hraw : raw.text = front ++ d.glyph :: rest)
    (hstart : m.start = front.length) (hf : Flawed d used m.flaw rest) :
    (m.span raw).PointsAt d.glyph raw.text := by
  obtain ⟨blamed, behind, hcut, hn, hwidth⟩ := hf.exists_blamed m.start
  have hdrop : raw.text.drop m.start = blamed ++ behind := by
    rw [hraw, hstart, List.drop_left, hcut]
  have hlen : blamed.length + behind.length = raw.text.length - m.start := by
    rw [← List.length_drop, hdrop, List.length_append]
  have hpos := width_pos m
  have hstop : (m.span raw).stop = m.start + m.width := rfl
  have hw : blamed.length = m.width := hwidth
  refine ⟨?_, ?_, ?_, ?_, ?_⟩
  · rw [span_start, hstop]
    omega
  · rw [hstop]
    omega
  · rw [span_start, hraw, hstart, List.getElem?_append_right (Nat.le_refl _), Nat.sub_self]
    rfl
  · rw [span_start, hstop, Nat.add_sub_cancel_left, hdrop, ← hw, List.take_left]
    exact hn
  · rw [span_place, span_start, Document.table_eq_ofText]
    exact LineTable.locate_eq_after (by omega)

theorem drawn (hg : raw.text[m.start]? = some d.glyph)
    (hl : ∀ l, m.flaw = .duplicateLabel l → '\n' ∉ l) :
    (m.report d raw).Drawn d.glyph raw.text (m.span raw) := by
  have hle : m.start ≤ raw.text.length := Nat.le_of_lt (List.getElem?_eq_some_iff.1 hg).1
  have hr : d.glyph ≠ '\r' := fun h => d.glyph_inline (Or.inr h)
  have hsign : '\n' ∉ caretSign := by decide
  obtain ⟨stem, hrows, hstem⟩ :=
    Document.splitLines_snippet_zero hg d.glyph_ne_newline hr hsign
  have hsnippet : raw.snippet m.start 0 caretSign ≠ [] := by
    intro h
    have hlen : 1 = 2 := by
      rw [h] at hrows
      exact congrArg List.length hrows
    omega
  have hunder : ("  ".toList ++ stem).length =
      (Report.lineMargin (m.span raw).line).length + ((m.span raw).column - 1) := by
    have hlen : stem.length =
        (Text.ofNat (m.span raw).line).length + 3 + ((m.span raw).column - 1) := hstem
    have hbar : " | ".toList.length = 3 := rfl
    simp only [Report.lineMargin, List.length_append, hlen, hbar]
    omega
  obtain ⟨code, message, hint, hreport, hm, hh, hne⟩ := report_located d raw hl
  refine ⟨raw.lineText (m.span raw).line, "  ".toList ++ stem, hint, Document.isLine_locate hle, ?_,
    hunder, ?_⟩
  · have hmessage : (Fault.malformed (m.report d raw)).message = (m.report d raw).block false := rfl
    rw [hmessage, hreport, Report.splitLines_block_located hm hh hne hsnippet, Report.snippetRows,
      hrows]
    rfl
  · rw [hunder, List.getElem?_append_right (Nat.le_add_right ..), Nat.add_sub_cancel_left]
    exact Document.getElem?_lineText hg d.glyph_ne_newline hr

end Malformed

/-- **Reports.** Every fault of a capture is a report. If it has a span, it has been put together from
operations that all succeeded, its span is a stretch of one line that starts with the glyph, and it is
written in five rows with the caret under that glyph. -/
theorem ofRaw_error_report {rules : Rules} {serial : Nat} {raw : Text} {f : Fault}
    (h : Capture.ofRaw rules serial raw = .error f) :
    ∃ r, f = .malformed r ∧ ∀ span, r.span = some span →
      r.Built (.ofText serial raw) span ∧ span.PointsAt rules.delimiters.glyph raw ∧
        r.Drawn rules.delimiters.glyph raw span := by
  rcases Capture.ofRaw_eq_error_iff.1 h with ⟨-, rfl⟩ | ⟨-, m, hm, rfl⟩
  · refine ⟨_, rfl, fun span hspan => ?_⟩
    cases hspan
  · refine ⟨_, rfl, fun span hspan => ?_⟩
    rw [Malformed.report_span] at hspan
    obtain rfl := Option.some.inj hspan
    obtain ⟨t, rest, -, hraw, hf, hstart⟩ := strip_eq_error_iff.1 hm
    have htext : (Document.ofText serial raw).text = raw := Document.text_ofText serial raw
    have hl : ∀ l, m.flaw = .duplicateLabel l → '\n' ∉ l := by
      intro l he
      rw [he] at hf
      cases hf with
      | duplicateLabel hc hlabel hu => exact newline_notMem_of_isLabel hlabel
    have hpoints := Malformed.pointsAt _ (.ofText serial raw) (htext.trans hraw) hstart hf
    rw [htext] at hpoints
    have hle := Nat.le_trans (Nat.le_of_lt hpoints.start_lt_stop) hpoints.stop_le
    have hbuilt := Malformed.built rules.delimiters (.ofText serial raw)
      (by rwa [htext]) hl
    have hdrawn := Malformed.drawn rules.delimiters (.ofText serial raw)
      (by rw [htext]; exact hpoints.glyph) hl
    rw [htext] at hdrawn
    exact ⟨hbuilt, hpoints, hdrawn⟩

/-- Two markers of one label on a line behind a tab, with a carriage return at its end. -/
def repeatedText : Text := "a\r\n\t🌵(x)b🌵(x)\r\nc".toList

/-- The second marker is to blame: its glyph is the seventh code point of line two. -/
theorem ofRaw_repeatedText_report :
    ∃ r span, Capture.ofRaw .standard 0 repeatedText = .error (.malformed r) ∧
      r.span = some span ∧ span.line = 2 ∧ span.column = 7 ∧
      r.Built (.ofText 0 repeatedText) span ∧ span.PointsAt '🌵' repeatedText ∧
        r.Drawn '🌵' repeatedText span := by
  have h : Capture.ofRaw .standard 0 repeatedText = .error (.malformed
      ((Malformed.mk 9 (.duplicateLabel "x".toList)).report .standard (.ofText 0 repeatedText))) := by
    rfl
  obtain ⟨r, hr, hspan⟩ := ofRaw_error_report h
  obtain rfl := Fault.malformed.inj hr
  have hplace : LineTable.locate (.ofText repeatedText) 9 = ⟨2, 7⟩ := by
    rw [LineTable.locate_eq_after (by decide)]
    rfl
  refine ⟨_, _, h, rfl, ?_, ?_, hspan _ rfl⟩
  · exact congrArg Loc.line hplace
  · exact congrArg Loc.column hplace

end MarkedText
