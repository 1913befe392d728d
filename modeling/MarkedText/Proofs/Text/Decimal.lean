import Mathlib.Data.Nat.Digits.Lemmas
import MarkedText.Text.Basic

/-!
# Decimal numbers

What the written forms of natural numbers and integers look like, and that they can be read back.

* `isDigit_of_mem_ofNat`, `notMem_ofNat`: it is made of the ten digits alone.
* `length_ofNat`, `length_ofNat_le`: how long it is, and that a smaller number is no longer.
* `eq_minus_or_isDigit_of_mem_ofInt`: an integer may have a minus sign besides.
* `ofNat_injective`, `ofInt_injective`: different numbers are written differently.
* `eq_zero_of_head?_ofNat`: only zero is written with a leading zero.
-/

namespace MarkedText.Text

theorem isDigit_of_mem_ofNat {n : Nat} {c : Char} (h : c ∈ ofNat n) : c.isDigit = true :=
  Nat.isDigit_of_mem_toDigits (by decide) (by decide) h

theorem notMem_ofNat {c : Char} (h : c.isDigit = false) (n : Nat) : c ∉ ofNat n := by
  intro hm
  have hdigit := isDigit_of_mem_ofNat hm
  rw [h] at hdigit
  cases hdigit

theorem newline_notMem_ofNat (n : Nat) : '\n' ∉ ofNat n := notMem_ofNat (by decide) n

theorem eq_minus_or_isDigit_of_mem_ofInt {n : Int} {c : Char} (h : c ∈ ofInt n) :
    c = '-' ∨ c.isDigit = true := by
  cases n with
  | ofNat n => exact Or.inr (isDigit_of_mem_ofNat h)
  | negSucc n =>
    rcases List.mem_cons.1 h with h | h
    · exact Or.inl h
    · exact Or.inr (isDigit_of_mem_ofNat h)

theorem newline_notMem_ofInt (n : Int) : '\n' ∉ ofInt n := by
  intro h
  rcases eq_minus_or_isDigit_of_mem_ofInt h with h | h
  · exact absurd h (by decide)
  · exact absurd h (by decide)

theorem length_ofNat_pos (n : Nat) : 0 < (ofNat n).length := Nat.length_toDigits_pos

theorem length_ofNat_le_iff {n k : Nat} (hk : 0 < k) : (ofNat n).length ≤ k ↔ n < 10 ^ k :=
  Nat.length_toDigits_le_iff (by decide) hk

theorem length_ofNat_le {m n : Nat} (h : m ≤ n) : (ofNat m).length ≤ (ofNat n).length := by
  have hn : n < 10 ^ (ofNat n).length := (length_ofNat_le_iff (length_ofNat_pos n)).1 (Nat.le_refl _)
  exact (length_ofNat_le_iff (length_ofNat_pos n)).2 (Nat.lt_of_le_of_lt h hn)

/-- Zero has no digits as a number, but one as a text. -/
theorem length_ofNat {n : Nat} (h : 0 < n) : (ofNat n).length = (Nat.digits 10 n).length := by
  have hpos : 0 < (Nat.digits 10 n).length :=
    List.length_pos_iff.2 (Nat.digits_ne_nil_iff_ne_zero.2 (Nat.ne_of_gt h))
  apply Nat.le_antisymm
  · exact (length_ofNat_le_iff hpos).2 ((Nat.digits_length_le_iff (by decide) n).1 (Nat.le_refl _))
  · exact (Nat.digits_length_le_iff (by decide) n).2
      ((length_ofNat_le_iff (length_ofNat_pos n)).1 (Nat.le_refl _))

theorem ofNat_injective : Function.Injective ofNat := by
  intro m n h
  calc m = Nat.ofDigitChars 10 (ofNat m) 0 := Nat.ofDigitChars_ten_toDigits.symm
    _ = Nat.ofDigitChars 10 (ofNat n) 0 := by rw [h]
    _ = n := Nat.ofDigitChars_ten_toDigits

theorem ofInt_ne_nil (n : Int) : ofInt n ≠ [] := by
  cases n with
  | ofNat n => exact List.ne_nil_of_length_pos (length_ofNat_pos n)
  | negSucc n => exact List.cons_ne_nil _ _

/-- The sign tells a negative integer from the others. -/
theorem ofInt_injective : Function.Injective ofInt := by
  have hsign : ∀ m n, ofNat m ≠ '-' :: ofNat n := by
    intro m n h
    have hminus : '-' ∈ ofNat m := h ▸ List.mem_cons_self ..
    exact notMem_ofNat (by decide) m hminus
  intro m n h
  cases m with
  | ofNat m =>
    cases n with
    | ofNat n => exact congrArg Int.ofNat (ofNat_injective h)
    | negSucc n => exact absurd h (hsign m (n + 1))
  | negSucc m =>
    cases n with
    | ofNat n => exact absurd h.symm (hsign n (m + 1))
    | negSucc n =>
      have hsucc : m + 1 = n + 1 := ofNat_injective (List.cons.inj h).2
      exact congrArg Int.negSucc (Nat.succ.inj hsucc)

theorem eq_zero_of_digitChar {d : Nat} (hd : d < 10) (h : Nat.digitChar d = '0') : d = 0 := by
  have hcode : (Nat.digitChar d).toNat = 48 := congrArg Char.toNat h
  rw [Nat.toNat_digitChar_of_lt_ten hd] at hcode
  omega

theorem eq_zero_of_head?_ofNat {n : Nat} (h : (ofNat n).head? = some '0') : n = 0 := by
  induction n using Nat.strongRecOn with
  | ind n ih =>
    rw [ofNat, Nat.toDigits_eq_if (by decide)] at h
    split at h
    · next hn => exact eq_zero_of_digitChar hn (Option.some.inj h)
    · next hn =>
      have hfront : Nat.toDigits 10 (n / 10) ≠ [] :=
        List.ne_nil_of_length_pos (length_ofNat_pos (n / 10))
      rw [List.head?_append_of_ne_nil _ hfront] at h
      have := ih (n / 10) (by omega) h
      omega

/-- Blanks in front of a number do not hide it. -/
theorem ofNat_eq_of_padded {j k m n : Nat}
    (h : List.replicate j ' ' ++ ofNat m = List.replicate k ' ' ++ ofNat n) : m = n := by
  have hread : ∀ j m, (List.replicate j ' ' ++ ofNat m).filter Char.isDigit = ofNat m := by
    intro j m
    have hblank : (List.replicate j ' ').filter Char.isDigit = [] :=
      List.filter_replicate_of_neg (by decide)
    rw [List.filter_append, hblank, List.nil_append]
    exact List.filter_eq_self.2 fun c hc => isDigit_of_mem_ofNat hc
  have hdigits := congrArg (List.filter Char.isDigit) h
  rw [hread, hread] at hdigits
  exact ofNat_injective hdigits

end MarkedText.Text
