import MarkedText.Proofs.Marker.Reading

/-!
# Which raw texts are rejected, and how

A raw text is rejected for its length, or for one marker. That marker is described here by offsets of
the raw text alone: the text in front of its glyph is captured, and what stands behind the glyph
breaks a rule (`FlawedAt`). The rules are judged in a fixed order, and the offsets of the report are
those at which the first broken rule is found.

* `reached_iff`: the first place of a code point, as a cut of the text.
* `flawedAt_iff`: a flaw by offsets is a flaw of the text behind the glyph.
* `ofRaw_error_iff_rejected`: a raw text is rejected with a code and a place exactly when `Rejected`
  says so; there is at most one such code and place, and without one the text is captured.
-/

namespace MarkedText

/-- From offset `a` on, `x` stands at offset `c` with no `avoid` before it. -/
def Reached (raw : Text) (a : Nat) (x avoid : Char) (c : Nat) : Prop :=
  a ≤ c ∧ raw[c]? = some x ∧ ∀ i, a ≤ i → i < c → raw[i]? ≠ some avoid

/-- The text between an opener at `h + 1` and a closer at `c`. -/
def labelBetween (raw : Text) (h c : Nat) : Text := (raw.drop (h + 2)).take (c - (h + 2))

/-- How the marker whose glyph stands at `h` is flawed when the labels `used` stand before it: the
code of the report, and the offset behind its span. The closer may stand anywhere behind the opener,
but not behind a line feed; the label ends at the first closer. -/
inductive FlawedAt (d : Delimiters) (raw : Text) (used : List Text) (h : Nat) :
    Report.Code → Nat → Prop where
  | bareGlyph (ho : raw[h + 1]? ≠ some d.opener) : FlawedAt d raw used h .bareGlyph (h + 1)
  | unterminated (ho : raw[h + 1]? = some d.opener)
      (hline : ¬ ∃ c, Reached raw (h + 2) d.closer '\n' c) :
      FlawedAt d raw used h .unterminated (h + 2)
  | invalidLabel {c : Nat} (ho : raw[h + 1]? = some d.opener)
      (hline : ∃ c, Reached raw (h + 2) d.closer '\n' c)
      (hc : Reached raw (h + 2) d.closer d.closer c) (hne : labelBetween raw h c ≠ [])
      (hx : ∃ x ∈ labelBetween raw h c, inLabel x = false) :
      FlawedAt d raw used h .invalidLabel (c + 1)
  | duplicateLabel {c : Nat} (ho : raw[h + 1]? = some d.opener)
      (hline : ∃ c, Reached raw (h + 2) d.closer '\n' c)
      (hc : Reached raw (h + 2) d.closer d.closer c) (hne : labelBetween raw h c ≠ [])
      (hx : ∀ x ∈ labelBetween raw h c, inLabel x = true) (hu : labelBetween raw h c ∈ used) :
      FlawedAt d raw used h .duplicateLabel (c + 1)

/-- A raw text is rejected with a code and, unless for its length, with the ends of a span. -/
inductive Rejected (rules : Rules) (serial : Nat) (raw : Text) :
    Report.Code → Option (Nat × Nat) → Prop where
  | tooLarge (hlen : rules.sizeLimit < raw.length) : Rejected rules serial raw .tooLarge none
  | marker {h stop : Nat} {code : Report.Code} {c : Capture} (hlen : raw.length ≤ rules.sizeLimit)
      (hg : raw[h]? = some rules.delimiters.glyph)
      (hc : Capture.ofRaw rules serial (raw.take h) = .ok c)
      (hf : FlawedAt rules.delimiters raw c.labels h code stop) :
      Rejected rules serial raw code (some (h, stop))

/-! ## Places in a text -/

theorem reached_iff {raw : Text} {a c : Nat} {x avoid : Char} :
    Reached raw a x avoid c ↔
      ∃ body t, raw.drop a = body ++ x :: t ∧ avoid ∉ body ∧ c = a + body.length := by
  constructor
  · rintro ⟨hle, hx, hno⟩
    obtain ⟨hlt, hx⟩ := List.getElem?_eq_some_iff.1 hx
    refine ⟨(raw.drop a).take (c - a), raw.drop (c + 1), ?_, ?_, ?_⟩
    · have hcut : raw.drop c = x :: raw.drop (c + 1) := by
        rw [← hx]
        exact List.drop_eq_getElem_cons hlt
      rw [← hcut, show c = a + (c - a) by omega, ← List.drop_drop, Nat.add_sub_cancel_left,
        List.take_append_drop]
    · intro hm
      obtain ⟨i, hi⟩ := List.mem_iff_getElem?.1 hm
      rw [List.getElem?_take] at hi
      split at hi
      · rw [List.getElem?_drop] at hi
        exact hno (a + i) (by omega) (by omega) hi
      · cases hi
    · rw [List.length_take, List.length_drop]
      omega
  · rintro ⟨body, t, hcut, hno, rfl⟩
    refine ⟨by omega, ?_, fun i hi hlt he => hno ?_⟩
    · rw [← List.getElem?_drop, hcut, List.getElem?_append_right (Nat.le_refl _), Nat.sub_self]
      rfl
    · rw [show i = a + (i - a) by omega, ← List.getElem?_drop, hcut,
        List.getElem?_append_left (by omega)] at he
      exact List.mem_of_getElem? he

theorem labelBetween_eq {raw l t : Text} {h : Nat} {x : Char} (hcut : raw.drop (h + 2) = l ++ x :: t) :
    labelBetween raw h (h + 2 + l.length) = l := by
  rw [labelBetween, hcut, Nat.add_sub_cancel_left, List.take_left]

/-- Up to its first `x`, a text is no longer than up to any other. -/
theorem prefix_of_first {x : Char} {l l' t t' : Text} (h : l ++ x :: t = l' ++ x :: t')
    (hx : x ∉ l) : l <+: l' := by
  rcases List.append_eq_append_iff.1 h with ⟨a, rfl, -⟩ | ⟨a, rfl, ha⟩
  · exact List.prefix_append ..
  · cases a with
    | nil => exact ⟨[], by simp⟩
    | cons y a =>
      obtain rfl : x = y := (List.cons.inj ha).1
      exact absurd (List.mem_append_right _ (List.mem_cons_self ..)) hx

/-- A closer is not reached when a line feed, or the end, comes before all closers. -/
theorem not_reached_of_stopped {d : Delimiters} {raw body t : Text} {a : Nat}
    (hcut : raw.drop a = body ++ t) (hc : d.closer ∉ body) (ht : ∀ c ∈ t.head?, c = '\n') :
    ¬ ∃ c, Reached raw a d.closer '\n' c := by
  rintro ⟨c, hr⟩
  obtain ⟨l, u, hcut', hn, -⟩ := reached_iff.1 hr
  rw [hcut] at hcut'
  rcases List.append_eq_append_iff.1 hcut' with ⟨v, rfl, hv⟩ | ⟨v, rfl, hv⟩
  · cases v with
    | nil =>
      rw [List.nil_append] at hv
      exact d.closer_ne_newline (ht d.closer (by rw [hv]; rfl))
    | cons y v =>
      have hy : y = '\n' := ht y (by rw [hv]; rfl)
      rw [hy] at hn
      exact hn (List.mem_append_right _ (List.mem_cons_self ..))
  · cases v with
    | nil =>
      rw [List.nil_append] at hv
      exact d.closer_ne_newline (ht d.closer (by rw [← hv]; rfl))
    | cons y v =>
      obtain rfl : d.closer = y := (List.cons.inj hv).1
      exact hc (List.mem_append_right _ (List.mem_cons_self ..))

/-- The closer behind a label, as an offset. -/
theorem reached_closer {d : Delimiters} {raw l t : Text} {h : Nat}
    (hcut : raw.drop (h + 2) = l ++ d.closer :: t) (hc : d.closer ∉ l) (hn : '\n' ∉ l) :
    ∃ c, (∃ c', Reached raw (h + 2) d.closer '\n' c') ∧ Reached raw (h + 2) d.closer d.closer c ∧
      labelBetween raw h c = l ∧ c + 1 = h + (l.length + 3) :=
  ⟨h + 2 + l.length, ⟨_, reached_iff.2 ⟨l, t, hcut, hn, rfl⟩⟩, reached_iff.2 ⟨l, t, hcut, hc, rfl⟩,
    labelBetween_eq hcut, by omega⟩

/-! ## Flaws by offsets -/

/-- The code of the report on a flaw. -/
def Flaw.code : Flaw → Report.Code
  | bareGlyph => .bareGlyph
  | unterminated => .unterminated
  | invalidLabel _ => .invalidLabel
  | duplicateLabel _ => .duplicateLabel

theorem Malformed.report_code (d : Delimiters) (raw : Document) (m : Malformed) :
    (m.report d raw).code = m.flaw.code := by
  obtain ⟨start, f⟩ := m
  cases f <;> rfl

theorem drop_eq_of_getElem? {raw : Text} {i : Nat} {x : Char} (h : raw[i]? = some x) :
    raw.drop i = x :: raw.drop (i + 1) := by
  obtain ⟨hlt, rfl⟩ := List.getElem?_eq_some_iff.1 h
  exact List.drop_eq_getElem_cons hlt

theorem getElem?_of_drop_eq {raw t : Text} {i : Nat} {x : Char} (h : raw.drop i = x :: t) :
    raw[i]? = some x ∧ raw.drop (i + 1) = t := by
  constructor
  · rw [← List.head?_drop, h]
    rfl
  · rw [← List.drop_drop, h]
    rfl

theorem flawed_of_flawedAt {d : Delimiters} {raw : Text} {used : List Text} {h stop : Nat}
    {code : Report.Code} (hf : FlawedAt d raw used h code stop) :
    ∃ f, Flawed d used f (raw.drop (h + 1)) ∧ f.code = code ∧
      stop = h + (Malformed.mk h f).width := by
  cases hf with
  | bareGlyph ho => exact ⟨.bareGlyph, .bareGlyph (by rwa [List.head?_drop]), rfl, rfl⟩
  | unterminated ho hline =>
    rw [drop_eq_of_getElem? ho]
    obtain ⟨body, t, hcut, hc, hn, hstop⟩ := exists_label_split d (raw.drop (h + 2))
    rw [hcut]
    refine ⟨.unterminated, .unterminated hc hn fun c hct => ?_, rfl, rfl⟩
    rcases hstop c hct with rfl | hct'
    · obtain ⟨u, rfl⟩ := List.head?_eq_some_iff.1 hct
      exact absurd ⟨_, reached_iff.2 ⟨body, u, hcut, hn, rfl⟩⟩ hline
    · exact hct'
  | @invalidLabel c ho hline hc hne hx =>
    obtain ⟨l, t, hcut, hcl, rfl⟩ := reached_iff.1 hc
    obtain ⟨c', hr⟩ := hline
    obtain ⟨body, u, hcut', hnb, -⟩ := reached_iff.1 hr
    rw [labelBetween_eq hcut] at hne hx
    have hn : '\n' ∉ l := fun hm =>
      hnb ((prefix_of_first (hcut.symm.trans hcut') hcl).subset hm)
    have hl : isLabel l = false := by
      obtain ⟨x, hxl, hxf⟩ := hx
      rw [← Bool.not_eq_true, isLabel_iff]
      intro hall
      rw [hall.2 x hxl] at hxf
      cases hxf
    rw [drop_eq_of_getElem? ho, hcut]
    exact ⟨.invalidLabel l, .invalidLabel hcl hn hne hl, rfl, by simp only [Malformed.width]; omega⟩
  | @duplicateLabel c ho hline hc hne hx hu =>
    obtain ⟨l, t, hcut, hcl, rfl⟩ := reached_iff.1 hc
    rw [labelBetween_eq hcut] at hne hx hu
    rw [drop_eq_of_getElem? ho, hcut]
    exact ⟨.duplicateLabel l, .duplicateLabel hcl ((isLabel_iff l).2 ⟨hne, hx⟩) hu, rfl,
      by simp only [Malformed.width]; omega⟩

theorem flawedAt_of_flawed {d : Delimiters} {raw t : Text} {used : List Text} {h : Nat} {f : Flaw}
    (hf : Flawed d used f t) (ht : raw.drop (h + 1) = t) :
    FlawedAt d raw used h f.code (h + (Malformed.mk h f).width) := by
  cases hf with
  | bareGlyph ho => exact .bareGlyph (by rwa [← List.head?_drop, ht])
  | unterminated hc hn hstop =>
    obtain ⟨ho, hcut⟩ := getElem?_of_drop_eq ht
    exact .unterminated ho (not_reached_of_stopped hcut hc hstop)
  | @invalidLabel l t hc hn hne hl =>
    obtain ⟨ho, hcut⟩ := getElem?_of_drop_eq ht
    obtain ⟨c, hline, hr, hlabel, hstop⟩ := reached_closer hcut hc hn
    have hx : ∃ x ∈ l, inLabel x = false := by
      by_cases hall : ∀ x ∈ l, inLabel x = true
      · rw [(isLabel_iff l).2 ⟨hne, hall⟩] at hl
        cases hl
      · simpa using hall
    rw [show h + (Malformed.mk h (.invalidLabel l)).width = c + 1 from hstop.symm]
    exact .invalidLabel ho hline hr (by rwa [hlabel]) (by rwa [hlabel])
  | @duplicateLabel l t hc hl hu =>
    obtain ⟨ho, hcut⟩ := getElem?_of_drop_eq ht
    obtain ⟨c, hline, hr, hlabel, hstop⟩ := reached_closer hcut hc (newline_notMem_of_isLabel hl)
    obtain ⟨hne, hall⟩ := (isLabel_iff l).1 hl
    rw [show h + (Malformed.mk h (.duplicateLabel l)).width = c + 1 from hstop.symm]
    exact .duplicateLabel ho hline hr (by rwa [hlabel]) (by rwa [hlabel]) (by rwa [hlabel])

theorem flawedAt_iff {d : Delimiters} {raw : Text} {used : List Text} {h stop : Nat}
    {code : Report.Code} :
    FlawedAt d raw used h code stop ↔ ∃ f, Flawed d used f (raw.drop (h + 1)) ∧ f.code = code ∧
      stop = h + (Malformed.mk h f).width := by
  constructor
  · exact flawed_of_flawedAt
  · rintro ⟨f, hf, rfl, rfl⟩
    exact flawedAt_of_flawed hf rfl

/-! ## Rejected texts -/

theorem Flawed.mono {d : Delimiters} {used used' : List Text} {f : Flaw} {t : Text}
    (hf : Flawed d used f t) (hu : ∀ l ∈ used, l ∈ used') : Flawed d used' f t := by
  cases hf with
  | bareGlyph ht => exact .bareGlyph ht
  | unterminated hc hn ht => exact .unterminated hc hn ht
  | invalidLabel hc hn hne hl => exact .invalidLabel hc hn hne hl
  | duplicateLabel hc hl hmem => exact .duplicateLabel hc hl (hu _ hmem)

/-- A refused text, seen from its offsets: in front of the glyph it is captured, and the labels of
that capture are the ones that a label may repeat. -/
theorem strip_error_iff_flawedAt {rules : Rules} (serial : Nat) {h stop : Nat} {raw : Text}
    {code : Report.Code} (hlen : raw.length ≤ rules.sizeLimit) :
    (∃ m, strip rules.delimiters raw = .error m ∧ m.start = h ∧ m.flaw.code = code ∧
      stop = h + m.width) ↔
    raw[h]? = some rules.delimiters.glyph ∧ ∃ c, Capture.ofRaw rules serial (raw.take h) = .ok c ∧
      FlawedAt rules.delimiters raw c.labels h code stop := by
  constructor
  · rintro ⟨⟨start, f⟩, hm, rfl, rfl, rfl⟩
    obtain ⟨t, rest, hv, hraw, hf, hstart⟩ := strip_eq_error_iff.1 hm
    simp only at hf hstart
    have hcut : raw.drop start = rules.delimiters.glyph :: rest := by
      rw [hraw, hstart, List.drop_left]
    have htake : raw.take start = t.render rules.delimiters := by
      rw [hraw, hstart, List.take_left]
    obtain ⟨hg, hrest⟩ := getElem?_of_drop_eq hcut
    have hle : (raw.take start).length ≤ rules.sizeLimit :=
      Nat.le_trans (List.length_take_le' ..) hlen
    refine ⟨hg, _, Capture.ofRaw_eq_ok_iff.2 ⟨hle, t, hv, htake, rfl⟩, flawedAt_iff.2 ?_⟩
    refine ⟨f, ?_, rfl, rfl⟩
    rw [hrest]
    refine hf.mono fun l hl => ?_
    rw [Capture.labels, Template.labels_markers]
    exact List.mem_reverse.1 hl
  · rintro ⟨hg, c, hc, hf⟩
    obtain ⟨-, t, hv, htake, rfl⟩ := Capture.ofRaw_eq_ok_iff.1 hc
    obtain ⟨f, hf, hcode, hstop⟩ := flawedAt_iff.1 hf
    have hraw : raw = t.render rules.delimiters ++ rules.delimiters.glyph :: raw.drop (h + 1) := by
      rw [← htake, ← drop_eq_of_getElem? hg, List.take_append_drop]
    have hstart : h = (t.render rules.delimiters).length := by
      have hlt := (List.getElem?_eq_some_iff.1 hg).1
      rw [← htake, List.length_take]
      omega
    refine ⟨⟨h, f⟩, strip_eq_error_iff.2 ⟨t, _, hv, hraw, ?_, hstart⟩, rfl, hcode, hstop⟩
    refine hf.mono fun l hl => ?_
    rw [Capture.labels, Template.labels_markers] at hl
    exact List.mem_reverse.2 hl

/-- The code of a report and the ends of its span, if it has one. -/
def Report.verdict (r : Report) : Report.Code × Option (Nat × Nat) :=
  (r.code, r.span.map fun s => (s.start, s.stop))

theorem Malformed.report_verdict (d : Delimiters) (raw : Document) (m : Malformed) :
    (m.report d raw).verdict = (m.flaw.code, some (m.start, m.start + m.width)) := by
  rw [Report.verdict, report_code, report_span]
  rfl

theorem rejected_iff_verdict {rules : Rules} {serial : Nat} {raw : Text} {code : Report.Code}
    {place : Option (Nat × Nat)} :
    (∃ r, Capture.ofRaw rules serial raw = .error (.malformed r) ∧ r.verdict = (code, place)) ↔
      Rejected rules serial raw code place := by
  constructor
  · rintro ⟨r, hr, hverdict⟩
    rcases Capture.ofRaw_eq_error_iff.1 hr with ⟨hlen, he⟩ | ⟨hlen, m, hm, he⟩
    · obtain rfl := Fault.malformed.inj he
      obtain ⟨rfl, rfl⟩ := Prod.mk.inj hverdict
      exact .tooLarge hlen
    · obtain rfl := Fault.malformed.inj he
      rw [Malformed.report_verdict] at hverdict
      obtain ⟨rfl, rfl⟩ := Prod.mk.inj hverdict
      obtain ⟨hg, c, hc, hf⟩ :=
        (strip_error_iff_flawedAt serial hlen).1 ⟨m, hm, rfl, rfl, rfl⟩
      exact .marker hlen hg hc hf
  · intro h
    cases h with
    | tooLarge hlen => exact ⟨_, Capture.ofRaw_tooLarge hlen serial, rfl⟩
    | marker hlen hg hc hf =>
      obtain ⟨m, hm, rfl, rfl, rfl⟩ := (strip_error_iff_flawedAt serial hlen).2 ⟨hg, _, hc, hf⟩
      exact ⟨_, Capture.ofRaw_eq_error_iff.2 (Or.inr ⟨hlen, m, hm, rfl⟩),
        Malformed.report_verdict ..⟩

/-- **Rejection.** Every fault of a capture is a report. Its code, and the ends of its span or their
absence, are the ones that `Rejected` finds by offsets; these are unique, and a raw text for which
there are none is captured. -/
theorem ofRaw_error_iff_rejected (rules : Rules) (serial : Nat) (raw : Text) :
    (∀ f, Capture.ofRaw rules serial raw = .error f → ∃ r, f = .malformed r) ∧
    (∀ code place,
      (∃ r, Capture.ofRaw rules serial raw = .error (.malformed r) ∧ r.code = code ∧
        r.span.map (fun s => (s.start, s.stop)) = place) ↔ Rejected rules serial raw code place) ∧
    (∀ code place code' place', Rejected rules serial raw code place →
      Rejected rules serial raw code' place' → code = code' ∧ place = place') ∧
    ((∃ c, Capture.ofRaw rules serial raw = .ok c) ↔
      ∀ code place, ¬ Rejected rules serial raw code place) := by
  have hfault : ∀ f, Capture.ofRaw rules serial raw = .error f → ∃ r, f = .malformed r := by
    intro f hf
    rcases Capture.ofRaw_eq_error_iff.1 hf with ⟨-, rfl⟩ | ⟨-, m, -, rfl⟩ <;> exact ⟨_, rfl⟩
  refine ⟨hfault, fun code place => ?_, fun code place code' place' h h' => ?_, ?_, ?_⟩
  · rw [← rejected_iff_verdict]
    simp only [Report.verdict, Prod.mk.injEq]
  · obtain ⟨r, hr, hv⟩ := rejected_iff_verdict.2 h
    obtain ⟨r', hr', hv'⟩ := rejected_iff_verdict.2 h'
    rw [hr] at hr'
    obtain rfl := Fault.malformed.inj (Except.error.inj hr')
    exact Prod.mk.inj (hv.symm.trans hv')
  · rintro ⟨c, hc⟩ code place h
    obtain ⟨r, hr, -⟩ := rejected_iff_verdict.2 h
    rw [hc] at hr
    cases hr
  · intro hnone
    cases hr : Capture.ofRaw rules serial raw with
    | ok c => exact ⟨c, rfl⟩
    | error f =>
      obtain ⟨r, rfl⟩ := hfault f hr
      exact absurd (rejected_iff_verdict.1 ⟨r, hr, rfl⟩) (hnone _ _)

end MarkedText
