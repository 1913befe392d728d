import Mathlib.Order.Bounds.Basic
import MarkedText.Proofs.Check.Integers

/-!
# Scanning an integer by any test

A scan asks its test at one place after the other and stops at the first one that fails it, or at the
end of the text, where it does not ask any more. So it makes no difference what the test would do at
the end, not even whether it would fail there for want of a code point. The cursor is left where the
scan has stopped, also when what was passed is no integer.

* `trySkipWhile`, `tryScanInteger`: scanning by a test that may itself fail.
* `trySkipWhile_eq`: such a test is not asked at the end.
* `isLeast_skipWhile`: where skipping stops.
* `slice_skipWhile_has`: what is passed by a test on code points.
* `scanInteger_verdict`: the main result.
-/

namespace MarkedText

namespace Cursor

variable {c : Cursor} {p : Cursor → Bool} {test : Cursor → Except Fault Bool}

/-! ## Tests that may fail -/

/-- Skipping by a test that may fail; the cursor then stays where the test has failed. -/
def trySkipWhile (test : Cursor → Except Fault Bool) (c : Cursor) : Cursor × Except Fault Unit :=
  if h : c.index < c.document.size then
    match test c with
    | .error f => (c, .error f)
    | .ok true => trySkipWhile test ⟨c.document, c.index + 1, h⟩
    | .ok false => (c, .ok ())
  else (c, .ok ())
termination_by c.document.size - c.index

/-- Scanning an integer by a test that may fail. -/
def tryScanInteger (test : Cursor → Except Fault Bool) (c : Cursor) : Cursor × Except Fault Int :=
  let skipped := c.trySkipWhile test
  (skipped.1, do
    skipped.2
    (Numeral.read (c.document.slice c.index skipped.1.index)).mapError .badNumeral)

/-- A test has answers where it is asked, which is never at the end. -/
theorem trySkipWhile_eq
    (htest : ∀ x, x.document = c.document → x.isEnd = false → test x = .ok (p x)) :
    c.trySkipWhile test = (c.skipWhile p, .ok ()) := by
  fun_induction skipWhile p c with
  | case1 c h hp ih =>
    have hanswer := htest c rfl (by simp [isEnd]; omega)
    rw [trySkipWhile, dif_pos h, hanswer, hp]
    exact ih htest
  | case2 c h hp =>
    have hanswer := htest c rfl (by simp [isEnd]; omega)
    rw [trySkipWhile, dif_pos h, hanswer, Bool.eq_false_iff.2 hp]
  | case3 c h => rw [trySkipWhile, dif_neg h]

theorem tryScanInteger_eq
    (htest : ∀ x, x.document = c.document → x.isEnd = false → test x = .ok (p x)) :
    c.tryScanInteger test = c.scanInteger p := by
  unfold tryScanInteger scanInteger
  rw [trySkipWhile_eq htest]
  rfl

/-- Away from the end there is a code point to be tested. -/
theorem map_current (q : Char → Bool) (h : c.isEnd = false) :
    c.current.map q = .ok (has q (c.peek 0)) := by
  cases hpeek : c.peek 0 with
  | none =>
    rw [(isEnd_iff_peek c).2 hpeek] at h
    cases h
  | some x =>
    rw [(current_eq_ok_iff c x).2 hpeek]
    rfl

/-! ## Where a scan stops -/

/-- Every place that is passed meets the test. -/
theorem skipWhile_passed (p : Cursor → Bool) (c : Cursor) {k : Nat} (hlo : c.index ≤ k)
    (hhi : k < (c.skipWhile p).index) (hk : k ≤ c.document.size) : p ⟨c.document, k, hk⟩ = true := by
  fun_induction skipWhile p c with
  | case1 c h hp ih =>
    by_cases hhere : k = c.index
    · subst hhere
      exact hp
    · exact ih (by simp only; omega) hhi hk
  | case2 c h hp => omega
  | case3 c h => omega

theorem exists_skipWhile_eq (p : Cursor → Bool) (c : Cursor) :
    ∃ j hj, c.skipWhile p = ⟨c.document, j, hj⟩ :=
  ⟨_, _, c.skipWhile_eq_forward p⟩

/-- Skipping stops at the first place where the text ends or the test fails. -/
theorem isLeast_skipWhile (p : Cursor → Bool) (c : Cursor) :
    IsLeast {k | c.index ≤ k ∧ (k = c.document.size ∨ ∃ hk, p ⟨c.document, k, hk⟩ = false)}
      (c.skipWhile p).index := by
  obtain ⟨j, hj, hs⟩ := c.exists_skipWhile_eq p
  have hle := c.le_skipWhile_index p
  have hstop := c.skipWhile_stops p
  have hpassed := fun k => c.skipWhile_passed p (k := k)
  simp only [hs] at hle hstop hpassed ⊢
  constructor
  · refine ⟨hle, ?_⟩
    obtain hend | hfails := hstop
    · exact Or.inl (by simpa [isEnd] using hend)
    · exact Or.inr ⟨hj, hfails⟩
  · intro k hk
    obtain ⟨hlo, hend | ⟨hk, hfails⟩⟩ := hk
    · omega
    · refine Nat.le_of_not_lt fun hlt => ?_
      rw [hpassed k hlo hlt hk] at hfails
      cases hfails

/-- A test on code points passes the longest run of those that meet it. -/
theorem slice_skipWhile_has (q : Char → Bool) (c : Cursor) :
    c.document.slice c.index (c.skipWhile fun x => has q (x.peek 0)).index =
      (c.document.text.drop c.index).takeWhile q := by
  have hprefix := List.takeWhile_prefix q (l := c.document.text.drop c.index)
  have hrun := hprefix.length_le
  have hle := c.index_le
  rw [List.length_drop, ← Document.size_eq] at hrun
  rw [skipWhile_eq_forward, skipCount_has, index_forward, Nat.min_eq_left (by omega),
    Document.slice_eq, Nat.add_sub_cancel_left]
  exact (List.prefix_iff_eq_take.1 hprefix).symm

/-- What a scan makes of the text that it has passed. -/
theorem scanInteger_snd (p : Cursor → Bool) (c : Cursor) :
    (c.scanInteger p).2 =
      (Numeral.read ((c.document.text.drop c.index).take
        ((c.skipWhile p).index - c.index))).mapError .badNumeral := by
  rw [← Document.slice_eq]
  rfl

end Cursor

/-- A row of ASCII digits is refused for its length alone. -/
theorem Numeral.read_row {t : Text} (h : ∀ x ∈ t, Text.isAsciiDigit x = true) :
    if t.length = 0 ∨ digitLimit < t.length then ∃ r, read t = .error r
    else read t = .ok (Nat.ofDigitChars 10 t 0) := by
  cases t with
  | nil => exact ⟨.notANumber [], rfl⟩
  | cons x t =>
    rw [read_of_digits h (List.cons_ne_nil x t)]
    have hpos : ¬ (x :: t).length = 0 := by simp
    simp only [hpos, false_or]
    split
    · exact ⟨_, rfl⟩
    · rfl

/-- A scan of ASCII digits fails when there is none, and when there are too many. -/
theorem Cursor.scanInteger_ascii (c : Cursor) :
    let j := (c.skipWhile DigitTest.ascii.holds).index
    let taken := (c.document.text.drop c.index).take (j - c.index)
    if j = c.index ∨ 4300 < j - c.index then
      ∃ r, (c.scanInteger DigitTest.ascii.holds).2 = .error (.badNumeral r)
    else (c.scanInteger DigitTest.ascii.holds).2 = .ok (Nat.ofDigitChars 10 taken 0) := by
  intro j taken
  have hrun : taken = (c.document.text.drop c.index).takeWhile Text.isAsciiDigit :=
    (Document.slice_eq ..).symm.trans (c.slice_skipWhile_has Text.isAsciiDigit)
  have hread := Numeral.read_row (t := taken) fun x hx => List.mem_takeWhile_imp (hrun ▸ hx)
  have hlo : c.index ≤ j := c.le_skipWhile_index DigitTest.ascii.holds
  have hhi : j ≤ c.document.size := by
    have hlast := (c.skipWhile DigitTest.ascii.holds).index_le
    rwa [skipWhile_document] at hlast
  have hlength : taken.length = j - c.index := by
    rw [Document.size_eq] at hhi
    rw [List.length_take, List.length_drop]
    omega
  have hlimits : (j = c.index ∨ 4300 < j - c.index) ↔
      (taken.length = 0 ∨ Numeral.digitLimit < taken.length) := by
    rw [hlength, Numeral.digitLimit]
    omega
  rw [scanInteger_snd]
  simp only [hlimits]
  split at hread
  · next hbad =>
    obtain ⟨r, hr⟩ := hread
    rw [if_pos hbad]
    exact ⟨r, congrArg (Except.mapError Fault.badNumeral) hr⟩
  · next hgood =>
    rw [if_neg hgood]
    exact congrArg (Except.mapError Fault.badNumeral) hread

/-- **Scanning by any test.** A scan stops at the first place from its cursor on where the text ends or
the test fails, and leaves the cursor there whatever comes of it. A test that may fail gives the same
scan as long as it has answers in front of the end. What was passed is read as an integer, or is the
reason for the failure; if it is the longest run of ASCII digits, that depends on its length alone. -/
theorem scanInteger_verdict (c : Cursor) (p : Cursor → Bool) (test : Cursor → Except Fault Bool)
    (htest : ∀ x, x.document = c.document → x.isEnd = false → test x = .ok (p x)) :
    ∃ j hj,
      IsLeast {k | c.index ≤ k ∧ (k = c.document.size ∨ ∃ hk, p ⟨c.document, k, hk⟩ = false)} j ∧
      (c.scanInteger p).1 = ⟨c.document, j, hj⟩ ∧ c.tryScanInteger test = c.scanInteger p ∧
      let taken := (c.document.text.drop c.index).take (j - c.index)
      (match Numeral.read taken with
        | .ok n => (c.scanInteger p).2 = .ok n
        | .error r => (c.scanInteger p).2 = .error (.badNumeral r)) ∧
      ((∀ x, x.document = c.document → x.isEnd = false →
          test x = x.current.map Text.isAsciiDigit) →
        if j = c.index ∨ 4300 < j - c.index then
          ∃ r, (c.scanInteger p).2 = .error (.badNumeral r)
        else (c.scanInteger p).2 = .ok (Nat.ofDigitChars 10 taken 0)) := by
  obtain ⟨j, hj, hs⟩ := c.exists_skipWhile_eq p
  have hleast := c.isLeast_skipWhile p
  have hscan := c.scanInteger_snd p
  rw [hs] at hleast hscan
  refine ⟨j, hj, hleast, hs, Cursor.tryScanInteger_eq htest, ?_, fun hdigits => ?_⟩
  · rw [hscan]
    simp only
    cases Numeral.read ((c.document.text.drop c.index).take (j - c.index)) <;> rfl
  · -- A test that reads the code points is the one on ASCII digits, wherever it is asked.
    have hascii : c.tryScanInteger test = c.scanInteger DigitTest.ascii.holds := by
      apply Cursor.tryScanInteger_eq
      intro x hx hend
      rw [hdigits x hx hend, Cursor.map_current _ hend]
      rfl
    have hsame : c.scanInteger p = c.scanInteger DigitTest.ascii.holds :=
      (Cursor.tryScanInteger_eq htest).symm.trans hascii
    have hskip : c.skipWhile DigitTest.ascii.holds = c.skipWhile p :=
      congrArg Prod.fst hsame.symm
    have hverdict := c.scanInteger_ascii
    rw [hskip, hs] at hverdict
    rw [hsame]
    exact hverdict

/-- Digits up to the end of the text, scanned by a test that fails there. -/
theorem scanInteger_atEnd :
    let d := Document.ofText 0 "x012".toList
    let test := fun x : Cursor => x.current.map Text.isAsciiDigit
    let c : Cursor := ⟨d, 1, by decide⟩
    (∀ x, x.document = d → x.isEnd = false → test x = .ok (DigitTest.ascii.holds x)) ∧
      test ⟨d, 4, by decide⟩ = .error (.endOfText 4) ∧
      c.tryScanInteger test = (⟨d, 4, by decide⟩, .ok 12) := by
  intro d test c
  have htest : ∀ x, x.document = d → x.isEnd = false → test x = .ok (DigitTest.ascii.holds x) :=
    fun x _ hend => Cursor.map_current _ hend
  obtain ⟨j, hj, ⟨⟨hlo, hstop⟩, -⟩, hcursor, htry, -, hdigits⟩ :=
    scanInteger_verdict c DigitTest.ascii.holds test htest
  have hvalue := hdigits fun _ _ _ => rfl
  have hdigit : ∀ k : Fin 4, 1 ≤ k.val →
      DigitTest.ascii.holds ⟨d, k, Nat.le_of_lt k.isLt⟩ = true := by decide
  obtain rfl : j = 4 := by
    obtain hend | ⟨hk, hfails⟩ := hstop
    · exact hend
    · refine Nat.le_antisymm hk (Nat.le_of_not_lt fun hlt => ?_)
      rw [hdigit ⟨j, hlt⟩ hlo] at hfails
      cases hfails
  refine ⟨htest, rfl, ?_⟩
  rw [htry]
  exact Prod.ext hcursor ((if_neg (by decide)).mp hvalue)

end MarkedText
