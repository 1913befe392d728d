import MarkedText.Check.Fixture
import MarkedText.Proofs.Marker.Reading
import MarkedText.Proofs.Session.Cursors
import MarkedText.Proofs.Text.Numeral

/-!
# Integers between pairs of markers

A fixture may hold any number of integers, each between two markers of its own, with texts around
them. A replay of its capture gives the cursors of one pair after the other; scanning at the first of
a pair gives the integer and stops at the second, as long as no digit follows there.

* `Cursor.skipCount_has`: skipping by a property of code points passes the longest run of them.
* `Cursor.scanInteger_of_digits`: scanning a row of digits.
* `Harness.integersCheck_ok_iff`: the check on integers passes when the scans give what it expects.
* `Replay.scanPairs_of_drop`: the scans over what is left of a fixture.
* `scanPairs_render`: the main result, over the written form of any such fixture.
-/

namespace MarkedText

/-! ## Scanning at a cursor -/

namespace Cursor

/-- Skipping by a property of code points passes the longest run of them. -/
theorem skipCount_has (p : Char → Bool) (c : Cursor) :
    c.skipCount (fun c => has p (c.peek 0)) =
      ((c.document.text.drop c.index).takeWhile p).length := by
  have hpeek : ∀ c : Cursor, has p (c.peek 0) = c.document.text[c.index]?.any p := by
    intro c
    have h := c.peek_eq 0
    rw [has, ← Nat.add_zero c.index, ← h]
    rfl
  fun_induction skipCount (fun c => has p (c.peek 0)) c with
  | case1 c h ht ih =>
    rw [Document.size_eq] at h
    rw [hpeek, List.getElem?_eq_getElem h, Option.any_some] at ht
    rw [ih, List.drop_eq_getElem_cons h, List.takeWhile_cons_of_pos ht, List.length_cons]
  | case2 c h ht =>
    rw [Document.size_eq] at h
    rw [hpeek, List.getElem?_eq_getElem h, Option.any_some] at ht
    rw [List.drop_eq_getElem_cons h, List.takeWhile_cons_of_neg ht, List.length_nil]
  | case3 c h =>
    rw [Document.size_eq] at h
    rw [List.drop_eq_nil_of_le (Nat.le_of_not_lt h), List.takeWhile_nil, List.length_nil]

variable {c : Cursor} {digits rest : Text}

/-- The row ends before the text does or where no digit follows. -/
theorem scanInteger_of_digits (htext : c.document.text.drop c.index = digits ++ rest)
    (hall : digits.all Text.isAsciiDigit = true) (hne : digits ≠ [])
    (hlimit : digits.length ≤ Numeral.digitLimit)
    (hrest : rest.head?.any Text.isAsciiDigit = false) :
    c.scanInteger DigitTest.ascii.holds =
      (c.forward digits.length, .ok (Nat.ofDigitChars 10 digits 0)) := by
  have hdigits : ∀ x ∈ digits, Text.isAsciiDigit x = true := List.all_eq_true.1 hall
  have hbehind : rest.takeWhile Text.isAsciiDigit = [] := by
    cases rest with
    | nil => rfl
    | cons x rest => exact List.takeWhile_cons_of_neg (by simpa using hrest)
  have hrun : (c.document.text.drop c.index).takeWhile Text.isAsciiDigit = digits := by
    rw [htext, List.takeWhile_append_of_pos hdigits, hbehind, List.append_nil]
  have hstop : c.skipWhile DigitTest.ascii.holds = c.forward digits.length := by
    have hcount := skipCount_has Text.isAsciiDigit c
    rw [hrun] at hcount
    rw [skipWhile_eq_forward, ← hcount]
    rfl
  have hindex : (c.forward digits.length).index = c.index + digits.length := by
    have hsize := congrArg List.length htext
    rw [List.length_drop, List.length_append, ← Document.size_eq] at hsize
    have := c.index_le
    rw [index_forward]
    omega
  have hslice : c.document.slice c.index (c.forward digits.length).index = digits := by
    rw [hindex, Document.slice_eq, htext, Nat.add_sub_cancel_left, List.take_left]
  simp only [scanInteger, hstop, hslice, Numeral.read_of_digits hdigits hne,
    if_neg (Nat.not_lt.2 hlimit)]
  rfl

end Cursor

/-! ## Scans of pairs -/

/-- What the scan between two markers gave: the integer, and where the scanning cursor and the
second cursor of the pair stand. -/
structure PairScan where
  value : Int
  stop : Cursor
  target : Cursor

namespace Replay

/-- Scans at the first of the next two cursors. -/
def scanPair (test : Cursor → Bool) (r : Replay) : Except Fault (Replay × PairScan) := do
  let opening := r.next
  let start ← opening.2
  let closing := opening.1.next
  let target ← closing.2
  let scan := start.scanInteger test
  let value ← scan.2
  .ok (closing.1, ⟨value, scan.1, target⟩)

/-- Scans at so many pairs, one after the other. -/
def scanPairs (test : Cursor → Bool) : Nat → Replay → Except Fault (Replay × List PairScan)
  | 0, r => .ok (r, [])
  | n + 1, r => do
    let first ← r.scanPair test
    let others ← scanPairs test n first.1
    .ok (others.1, first.2 :: others.2)

variable {test : Cursor → Bool} {n : Nat} {r r' : Replay} {scans : List PairScan}

theorem scanPairs_succ_ok_iff :
    r.scanPairs test (n + 1) = .ok (r', scans) ↔ ∃ mid first others,
      r.scanPair test = .ok (mid, first) ∧ mid.scanPairs test n = .ok (r', others) ∧
        scans = first :: others := by
  simp only [scanPairs, bind_eq_ok_iff, Except.ok.injEq, Prod.mk.injEq, Prod.exists]
  constructor
  · intro ⟨mid, first, hfirst, _, others, hothers, hr, hscans⟩
    exact ⟨mid, first, others, hfirst, hr ▸ hothers, hscans.symm⟩
  · intro ⟨mid, first, others, hfirst, hothers, hscans⟩
    exact ⟨mid, first, hfirst, r', others, hothers, rfl, hscans.symm⟩

end Replay

namespace Harness

variable (h : Harness) (test : Cursor → Bool)

theorem integersCheck_cons_ok_iff (value : Int) (values : List Int) (r : Replay) :
    h.integersCheck test (value :: values) r = .ok () ↔
      ∃ mid first, r.scanPair test = .ok (mid, first) ∧ first.value = value ∧
        first.stop.index = first.target.index ∧ h.integersCheck test values mid = .ok () := by
  have hloop : h.integersCheck test (value :: values) r = (do
      let first ← r.scanPair test
      compareStrictly (.scanned (.integer first.2.value)) (.scanned (.integer value)) h.name
      h.check (.integer first.2.stop.index) (.integer first.2.target.index) (some first.2.stop)
      h.integersCheck test values first.1) := by
    simp only [integersCheck, Replay.scanPair, bind_assoc]
    rfl
  simp only [hloop, bind_eq_ok_iff (α := Replay × PairScan), seq_eq_ok_iff,
    compareStrictly_scanned_ok_iff, check_integer_ok_iff, Int.natCast_inj, Prod.exists]

/-- The check passes when all scans give the expected integers and stop where they should. -/
theorem integersCheck_ok_iff (values : List Int) (r : Replay) :
    h.integersCheck test values r = .ok () ↔
      ∃ r' scans, r.scanPairs test values.length = .ok (r', scans) ∧
        scans.map PairScan.value = values ∧ ∀ s ∈ scans, s.stop.index = s.target.index := by
  induction values generalizing r with
  | nil => exact ⟨fun _ => ⟨r, [], rfl, rfl, by simp⟩, fun _ => rfl⟩
  | cons value values ih =>
    rw [integersCheck_cons_ok_iff]
    constructor
    · intro ⟨mid, first, hfirst, hvalue, hstop, hothers⟩
      obtain ⟨r', scans, hscans, hvalues, hstops⟩ := (ih mid).1 hothers
      refine ⟨r', first :: scans, ?_, ?_, List.forall_mem_cons.2 ⟨hstop, hstops⟩⟩
      · exact Replay.scanPairs_succ_ok_iff.2 ⟨mid, first, scans, hfirst, hscans, rfl⟩
      · rw [List.map_cons, hvalue, hvalues]
    · intro ⟨r', scans, hscans, hvalues, hstops⟩
      obtain ⟨mid, first, others, hfirst, hothers, rfl⟩ := Replay.scanPairs_succ_ok_iff.1 hscans
      obtain ⟨hvalue, hvalues⟩ := List.cons.inj hvalues
      obtain ⟨hstop, hstops⟩ := List.forall_mem_cons.1 hstops
      exact ⟨mid, first, hfirst, hvalue, hstop, (ih mid).2 ⟨r', others, hothers, hvalues, hstops⟩⟩

end Harness

/-! ## Fixtures with integers -/

/-- A text in front, then for each integer its digits and the text behind them. -/
structure IntegerRow where
  head : Text
  parts : List (Text × Text)

namespace IntegerRow

/-- The raw text; each row of digits stands between two markers without labels. -/
def render (d : Delimiters) (w : IntegerRow) : Text :=
  w.head ++ w.parts.flatMap fun p => d.token [] ++ p.1 ++ d.token [] ++ p.2

/-- The integers that the digits spell in base ten. -/
def values (w : IntegerRow) : List Int := w.parts.map fun p => (Nat.ofDigitChars 10 p.1 0 : Int)

structure Valid (d : Delimiters) (w : IntegerRow) : Prop where
  head_plain : d.glyph ∉ w.head
  digits : ∀ p ∈ w.parts, p.1.all Text.isAsciiDigit = true
  digits_ne_nil : ∀ p ∈ w.parts, p.1 ≠ []
  digits_limit : ∀ p ∈ w.parts, p.1.length ≤ Numeral.digitLimit
  behind_plain : ∀ p ∈ w.parts, d.glyph ∉ p.2
  behind_no_digit : ∀ p ∈ w.parts, p.2.head?.any Text.isAsciiDigit = false
  between_ne_nil : ∀ p ∈ w.parts.dropLast, p.2 ≠ []

/-- The pieces behind the markers: digits and texts by turns. -/
def pieces (parts : List (Text × Text)) : List (Option Text × Text) :=
  parts.flatMap fun p => [(none, p.1), (none, p.2)]

def template (w : IntegerRow) : Template := ⟨w.head, pieces w.parts⟩

theorem pieces_cons (p : Text × Text) (ps : List (Text × Text)) :
    pieces (p :: ps) = (none, p.1) :: (none, p.2) :: pieces ps := rfl

theorem render_template (d : Delimiters) (w : IntegerRow) : w.template.render d = w.render d := by
  simp only [template, Template.render, pieces, List.flatMap_assoc, render]
  simp [Template.renderPart]

theorem labels_template (w : IntegerRow) : w.template.labels = [] := by
  rw [template, Template.labels]
  induction w.parts with
  | nil => rfl
  | cons p ps ih => rw [pieces_cons, List.filterMap_cons_none rfl, List.filterMap_cons_none rfl, ih]

variable {d : Delimiters} {head : Text} {p : Text × Text} {ps : List (Text × Text)}

theorem Valid.tail (h : Valid d ⟨head, p :: ps⟩) : Valid d ⟨p.2, ps⟩ := by
  have hmem : ∀ q ∈ ps, q ∈ p :: ps := fun q hq => List.mem_cons_of_mem _ hq
  refine ⟨h.behind_plain p (List.mem_cons_self ..), fun q hq => h.digits q (hmem q hq),
    fun q hq => h.digits_ne_nil q (hmem q hq), fun q hq => h.digits_limit q (hmem q hq),
    fun q hq => h.behind_plain q (hmem q hq), fun q hq => h.behind_no_digit q (hmem q hq), ?_⟩
  intro q hq
  apply h.between_ne_nil q
  cases ps with
  | nil => cases hq
  | cons p' ps => exact List.mem_cons_of_mem _ hq

/-- Behind the digits of an integer comes no digit, be the text behind them empty or not. -/
theorem Valid.no_digit_behind (h : Valid d ⟨head, p :: ps⟩) :
    (p.2 ++ (pieces ps).flatMap Prod.snd).head?.any Text.isAsciiDigit = false := by
  have hbehind := h.behind_no_digit p (List.mem_cons_self ..)
  cases ps with
  | nil => simpa [pieces] using hbehind
  | cons p' ps =>
    have hne : p.2 ≠ [] := h.between_ne_nil p (List.mem_cons_self ..)
    cases hp : p.2 with
    | nil => exact absurd hp hne
    | cons x t =>
      rw [hp] at hbehind
      exact hbehind

theorem Valid.template {w : IntegerRow} (h : w.Valid d)
    (hglyph : Text.isAsciiDigit d.glyph = false) : w.template.Valid d := by
  refine ⟨h.head_plain, ?_, ?_, ?_⟩
  · intro q hq
    obtain ⟨p, hp, hq⟩ := List.mem_flatMap.1 hq
    rcases List.mem_cons.1 hq with rfl | hq
    · intro hmem
      rw [List.all_eq_true.1 (h.digits p hp) _ hmem] at hglyph
      cases hglyph
    · rw [List.mem_singleton.1 hq]
      exact h.behind_plain p hp
  · rw [labels_template]
    simp
  · rw [labels_template]
    exact List.nodup_nil

end IntegerRow

/-! ## Scanning a fixture -/

namespace Replay

variable {r : Replay} {d : Delimiters} {n m : Nat}

theorem scanPair_of_drop {p : Text × Text} {ps : List (Option Text × Text)} {rest : Text}
    (hm : r.capture.markers.drop r.position =
      Template.markersFrom d n m ((none, p.1) :: (none, p.2) :: ps))
    (htext : r.capture.document.text.drop n = p.1 ++ rest)
    (hsize : n + p.1.length ≤ r.capture.document.size)
    (hdigits : p.1.all Text.isAsciiDigit = true) (hne : p.1 ≠ [])
    (hlimit : p.1.length ≤ Numeral.digitLimit)
    (hrest : rest.head?.any Text.isAsciiDigit = false) :
    r.scanPair DigitTest.ascii.holds = .ok (⟨r.capture, r.position + 2⟩,
      ⟨Nat.ofDigitChars 10 p.1 0, ⟨_, _, hsize⟩, ⟨_, _, hsize⟩⟩) := by
  have hn : n ≤ r.capture.document.size := by omega
  obtain ⟨hopening, hm'⟩ := next_of_drop hm hn
  have hclosing : Replay.next ⟨r.capture, r.position + 1⟩ =
      (⟨r.capture, r.position + 2⟩, .ok ⟨r.capture.document, n + p.1.length, hsize⟩) :=
    (next_of_drop (r := ⟨r.capture, r.position + 1⟩) hm' hsize).1
  have hscan : Cursor.scanInteger DigitTest.ascii.holds ⟨r.capture.document, n, hn⟩ =
      (⟨r.capture.document, n + p.1.length, hsize⟩, .ok (Nat.ofDigitChars 10 p.1 0)) := by
    rw [Cursor.scanInteger_of_digits htext hdigits hne hlimit hrest]
    simp only [Cursor.forward, Nat.min_eq_left hsize]
  simp only [scanPair, hopening, hclosing, bind, Except.bind, hscan]

/-- The replay of a row of integers, from the marker on that its first integer stands behind. -/
theorem scanPairs_of_drop {head : Text} {parts : List (Text × Text)}
    (hv : IntegerRow.Valid d ⟨head, parts⟩)
    (hm : r.capture.markers.drop r.position =
      Template.markersFrom d n m (IntegerRow.pieces parts))
    (htext : r.capture.document.text.drop n = (IntegerRow.pieces parts).flatMap Prod.snd)
    (hsize : n ≤ r.capture.document.size) :
    ∃ r' scans, r.scanPairs DigitTest.ascii.holds parts.length = .ok (r', scans) ∧
      scans.map PairScan.value = IntegerRow.values ⟨head, parts⟩ ∧
      (∀ s ∈ scans, s.stop = s.target) ∧ r'.remaining = 0 := by
  induction parts generalizing r head n m with
  | nil =>
    refine ⟨r, [], rfl, rfl, by simp, ?_⟩
    have hend : r.capture.markers.length ≤ r.position := List.drop_eq_nil_iff.1 hm
    rw [remaining, Nat.sub_eq_zero_of_le hend]
  | cons p ps ih =>
    -- A pair uses up two markers and two pieces, and what is left is a row of integers again.
    have hp : p ∈ p :: ps := List.mem_cons_self ..
    rw [IntegerRow.pieces_cons] at hm htext
    rw [List.flatMap_cons, List.flatMap_cons] at htext
    have hlength := congrArg List.length htext
    simp only [List.length_drop, List.length_append, ← Document.size_eq] at hlength
    have hpair := scanPair_of_drop hm htext (by omega) (hv.digits p hp) (hv.digits_ne_nil p hp)
      (hv.digits_limit p hp) hv.no_digit_behind
    obtain ⟨m', hm'⟩ : ∃ m', r.capture.markers.drop (r.position + 2) =
        Template.markersFrom d (n + p.1.length + p.2.length) m' (IntegerRow.pieces ps) := by
      rw [← List.drop_drop, hm]
      exact ⟨_, rfl⟩
    have htext' : r.capture.document.text.drop (n + p.1.length + p.2.length) =
        (IntegerRow.pieces ps).flatMap Prod.snd := by
      rw [← List.drop_drop, ← List.drop_drop, htext, List.drop_left, List.drop_left]
    obtain ⟨r', scans, hscans, hvalues, hstops, hend⟩ :=
      ih (r := ⟨r.capture, r.position + 2⟩) hv.tail hm' htext' (by simp only; omega)
    refine ⟨r', _ :: scans, scanPairs_succ_ok_iff.2 ⟨_, _, scans, hpair, hscans, rfl⟩, ?_, ?_, hend⟩
    · rw [List.map_cons, hvalues]
      rfl
    · exact List.forall_mem_cons.2 ⟨rfl, hstops⟩

end Replay

/-- **Scanning integers.** The written form of a row of integers is captured, and scanning at the
first cursor of each pair gives the integers in order. Each scan stops at the second cursor of its
pair, and no marker is left. So the check on these integers passes. -/
theorem scanPairs_render (rules : Rules) (serial : Nat) (w : IntegerRow)
    (hglyph : Text.isAsciiDigit rules.delimiters.glyph = false) (hv : w.Valid rules.delimiters)
    (hsize : (w.render rules.delimiters).length ≤ rules.sizeLimit) :
    ∃ c r scans, Capture.ofRaw rules serial (w.render rules.delimiters) = .ok c ∧
      (Replay.ofCapture c).scanPairs DigitTest.ascii.holds w.parts.length = .ok (r, scans) ∧
      scans.map PairScan.value = w.values ∧
      (∀ s ∈ scans, s.stop = s.target) ∧ r.remaining = 0 ∧
      ∀ h : Harness, h.integersCheck DigitTest.ascii.holds w.values (Replay.ofCapture c) = .ok () := by
  have hrender := w.render_template rules.delimiters
  have hc : Capture.ofRaw rules serial (w.render rules.delimiters) =
      .ok ⟨.ofText serial w.template.clean, w.template.markers rules.delimiters⟩ :=
    Capture.ofRaw_eq_ok_iff.2 ⟨hsize, w.template, hv.template hglyph, hrender.symm, rfl⟩
  have htext : (Document.ofText serial w.template.clean).text.drop w.head.length =
      (IntegerRow.pieces w.parts).flatMap Prod.snd := by
    rw [Document.text_ofText, Template.clean]
    exact List.drop_left
  have hhead : w.head.length ≤ (Document.ofText serial w.template.clean).size := by
    rw [Document.size_eq, Document.text_ofText]
    exact w.template.length_head_le
  obtain ⟨r, scans, hscans, hvalues, hstops, hend⟩ :=
    Replay.scanPairs_of_drop (r := .ofCapture ⟨_, _⟩) hv rfl htext hhead
  refine ⟨_, r, scans, hc, hscans, hvalues, hstops, hend, fun h => ?_⟩
  have hlength : w.values.length = w.parts.length := List.length_map ..
  refine (h.integersCheck_ok_iff _ _ _).2 ⟨r, scans, ?_, hvalues, fun s hs => ?_⟩
  · rw [hlength]
    exact hscans
  · rw [hstops s hs]

/-- A digit in front, leading zeros, a zero alone, and nothing behind the last integer. -/
def threeIntegers : IntegerRow :=
  ⟨"a1".toList, [("007".toList, "-".toList), ("0".toList, "\n".toList), ("42".toList, [])]⟩

theorem scanPairs_threeIntegers :
    Text.isAsciiDigit Rules.standard.delimiters.glyph = false ∧
      threeIntegers.Valid Rules.standard.delimiters ∧
      (threeIntegers.render Rules.standard.delimiters).length ≤ Rules.standard.sizeLimit ∧
      ∃ c r scans,
        Capture.ofRaw .standard 0 "a1🌵()007🌵()-🌵()0🌵()\n🌵()42🌵()".toList = .ok c ∧
        (Replay.ofCapture c).scanPairs DigitTest.ascii.holds 3 = .ok (r, scans) ∧
        scans.map PairScan.value = [7, 0, 42] ∧ (∀ s ∈ scans, s.stop = s.target) ∧
        r.remaining = 0 := by
  have hglyph : Text.isAsciiDigit Rules.standard.delimiters.glyph = false := by decide
  have hv : threeIntegers.Valid Rules.standard.delimiters :=
    ⟨by decide, by decide, by decide, by decide, by decide, by decide, by decide⟩
  have hsize : (threeIntegers.render Rules.standard.delimiters).length ≤
      Rules.standard.sizeLimit := by decide
  obtain ⟨c, r, scans, hc, hscans, hvalues, hstops, hend, -⟩ :=
    scanPairs_render .standard 0 threeIntegers hglyph hv hsize
  exact ⟨hglyph, hv, hsize, c, r, scans, hc, hscans, hvalues, hstops, hend⟩

end MarkedText
