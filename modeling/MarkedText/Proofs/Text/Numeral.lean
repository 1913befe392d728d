import Mathlib.Data.List.TakeWhile
import MarkedText.Text.Numeral

/-!
# Rows of digits

A row of ASCII digits is read as the number that it spells in base ten, whatever zeros are in front,
as long as it is not too long. It has neither a sign nor blanks nor underscores, so nothing of it is
left aside.

* `digitValues_of_digits`, `positional_of_digits`: what the digits are worth, alone and together.
* `read_of_digits`: what a row of digits is read as.
-/

namespace MarkedText

namespace Text

variable {c : Char}

theorem bounds_of_isAsciiDigit (h : isAsciiDigit c = true) : 0x30 ≤ c.toNat ∧ c.toNat ≤ 0x39 := by
  simpa [isAsciiDigit] using h

theorem decimal?_of_isAsciiDigit (h : isAsciiDigit c = true) :
    decimal? c = some (c.toNat - 0x30) := by
  have hascii : c.toNat < 0x80 := by
    have := bounds_of_isAsciiDigit h
    omega
  rw [decimal?_ascii hascii, if_pos h]

theorem isBlank_of_isAsciiDigit (h : isAsciiDigit c = true) : isBlank c = false := by
  obtain ⟨hlo, hhi⟩ := bounds_of_isAsciiDigit h
  simp only [isBlank, Bool.or_eq_false_iff, Bool.and_eq_false_iff, decide_eq_false_iff_not,
    beq_eq_false_iff_ne]
  omega

end Text

namespace Numeral

variable {t : Text}

theorem inRun_of_isAsciiDigit {c : Char} (h : Text.isAsciiDigit c = true) : inRun c = true := by
  simp [inRun, Text.decimal?_of_isAsciiDigit h]

theorem splitSign_of_digits (h : ∀ c ∈ t, Text.isAsciiDigit c = true) : splitSign t = (false, t) := by
  unfold splitSign
  split
  · exact absurd (h '-' (List.mem_cons_self ..)) (by decide)
  · exact absurd (h '+' (List.mem_cons_self ..)) (by decide)
  · rfl

theorem dropBlanks_of_digits (h : ∀ c ∈ t, Text.isAsciiDigit c = true) : Text.dropBlanks t = t := by
  cases t with
  | nil => rfl
  | cons c t =>
    have hc := Text.isBlank_of_isAsciiDigit (h c (List.mem_cons_self ..))
    rw [Text.dropBlanks, List.dropWhile_cons_of_neg (by simp [hc])]

theorem digitValues_of_digits (h : ∀ c ∈ t, Text.isAsciiDigit c = true) :
    digitValues t = t.map fun c => c.toNat - 0x30 := by
  induction t with
  | nil => rfl
  | cons c t ih =>
    have hc := Text.decimal?_of_isAsciiDigit (h c (List.mem_cons_self ..))
    have ht := ih fun d hd => h d (List.mem_cons_of_mem _ hd)
    rw [digitValues, List.filterMap_cons_some hc, List.map_cons, ← ht, digitValues]

theorem positional_of_digits (h : ∀ c ∈ t, Text.isAsciiDigit c = true) :
    positional (digitValues t) = Nat.ofDigitChars 10 t 0 := by
  rw [digitValues_of_digits h, positional, List.foldl_map]
  rfl

/-- Leading zeros count as digits, but not for the value. -/
theorem read_of_digits (h : ∀ c ∈ t, Text.isAsciiDigit c = true) (hne : t ≠ []) :
    read t = if digitLimit < t.length then .error (.tooLong t.length)
      else .ok (Nat.ofDigitChars 10 t 0) := by
  have hrun : ∀ c ∈ t, inRun c = true := fun c hc => inRun_of_isAsciiDigit (h c hc)
  have htake : t.takeWhile inRun = t := List.takeWhile_eq_self_iff.2 hrun
  have hdrop : t.dropWhile inRun = [] := List.dropWhile_eq_nil_iff.2 hrun
  have hgrouped : grouped false t = true := by
    rw [grouped_of_digits]
    · simpa using hne
    · intro c hc hunder
      rw [hunder] at hc
      exact absurd (h '_' hc) (by decide)
  have hlength : (digitValues t).length = t.length := by
    rw [digitValues_of_digits h, List.length_map]
  simp only [read, dropBlanks_of_digits h, splitSign_of_digits h, htake, hdrop, hgrouped, hlength,
    positional_of_digits h]
  simp [withSign]

end Numeral

end MarkedText
