import MarkedText.Proofs.Report.RoundTrip
import MarkedText.Text.Unquoted

/-!
# Quoted texts read back

A quoted text tells where it ends, whatever stands behind it: its mark comes first, and no code point
of the text is written with a bare mark in front. Every code point is read back from the way it is
written, since a numeric escape has as many digits as its letter announces. So two quoted texts that
are continued to the same whole are one text with one continuation.

* `length_hex`, `hexNumber?_hex`: how many digits there are, and what they spell.
* `unescape?_escape`: a code point read back from its written form.
* `unquote?_quote`: a text read back from its quoted form, with anything behind it.
* `quote_append_inj`: what two quoted texts with something behind them have in common.
-/

namespace MarkedText.Text

/-! ## Hexadecimal digits -/

theorem length_hex {width n : Nat} (hwidth : 0 < width) (h : n < 16 ^ width) :
    (hex width n).length = width := by
  have hdigits : (Nat.toDigits 16 n).length ≤ width :=
    (Nat.length_toDigits_le_iff (by decide) hwidth).2 h
  rw [hex, List.length_append, List.length_replicate]
  omega

theorem hexNumber?_append (t : Text) (c : Char) :
    hexNumber? (t ++ [c]) =
      (hexNumber? t).bind fun n => (Report.hexValue? c).map (16 * n + ·) := by
  simp [hexNumber?, List.foldlM_append]

theorem hexNumber?_toDigits (n : Nat) : hexNumber? (Nat.toDigits 16 n) = some n := by
  induction n using Nat.strongRecOn with
  | ind n ih =>
    rw [Nat.toDigits_eq_if (by decide)]
    split
    · next hn => simp [hexNumber?, Report.hexValue?_digitChar hn]
    · next hn =>
      have hlast : Report.hexValue? (Nat.digitChar (n % 16)) = some (n % 16) :=
        Report.hexValue?_digitChar (Nat.mod_lt _ (by decide))
      rw [hexNumber?_append, ih (n / 16) (by omega), Option.bind_some, hlast, Option.map_some,
        Nat.div_add_mod]

/-- Zeros in front do not count. -/
theorem hexNumber?_replicate_zero (k : Nat) (t : Text) :
    hexNumber? (List.replicate k '0' ++ t) = hexNumber? t := by
  have hzero : Report.hexValue? '0' = some 0 := by decide
  induction k with
  | zero => rfl
  | succ k ih =>
    rw [← ih, List.replicate_succ, List.cons_append, hexNumber?, List.foldlM_cons, hzero]
    rfl

theorem hexNumber?_hex (width n : Nat) : hexNumber? (hex width n) = some n := by
  rw [hex, hexNumber?_replicate_zero, hexNumber?_toDigits]

/-! ## Code points -/

variable {mark : Char}

theorem codePoint?_toNat (c : Char) : codePoint? c.toNat = some c := by
  have hvalid : c.toNat.isValidChar := c.valid
  rw [codePoint?, if_pos hvalid, Char.ofNat_toNat]

/-- Neither mark means anything else behind a backslash. -/
theorem readEscape?_mark (h : mark = singleQuote ∨ mark = doubleQuote) (t : Text) :
    readEscape? (mark :: t) = some (mark, t) := by
  rcases h with rfl | rfl <;> rfl

theorem readEscape?_hex {letter c : Char} {width : Nat} (hletter : escapeWidth? letter = some width)
    (hwidth : 0 < width) (h : c.toNat < 16 ^ width) (t : Text) :
    readEscape? (letter :: (hex width c.toNat ++ t)) = some (c, t) := by
  have hlength := length_hex hwidth h
  have hnumber : (hexNumber? (hex width c.toNat)).bind codePoint? = some c := by
    rw [hexNumber?_hex, Option.bind_some, codePoint?_toNat]
  rw [readEscape?, hletter]
  simp only [List.take_left' hlength, List.drop_left' hlength, hnumber, Option.map_some]

/-- The widest escape has room for every code point. -/
theorem toNat_lt_sixteen_pow (c : Char) : c.toNat < 16 ^ 8 := by
  have hvalid : c.toNat < 0xd800 ∨ 0xdfff < c.toNat ∧ c.toNat < 0x110000 := c.valid
  omega

/-- However a code point is written between two marks, it is read as itself. -/
theorem unescape?_escape (h : mark = singleQuote ∨ mark = doubleQuote) (c : Char) (t : Text) :
    unescape? (escape mark c ++ t) = some (c, t) := by
  unfold escape
  split
  · next hc =>
    rcases hc with rfl | rfl
    · rfl
    · exact readEscape?_mark h t
  · next hc =>
    have hslash : c ≠ '\\' := fun he => hc (Or.inl he)
    split
    · next he => subst he; rfl
    split
    · next he => subst he; rfl
    split
    · next he => subst he; rfl
    split
    · exact if_neg hslash
    have hshort : escapeWidth? 'x' = some 2 := rfl
    have hmiddle : escapeWidth? 'u' = some 4 := rfl
    have hlong : escapeWidth? 'U' = some 8 := rfl
    split
    · next hc => exact readEscape?_hex hshort (by decide) hc t
    split
    · next hc => exact readEscape?_hex hmiddle (by decide) hc t
    · exact readEscape?_hex hlong (by decide) (toNat_lt_sixteen_pow c) t

/-- What is written of a code point does not begin with the mark, so that the mark stays bare. -/
theorem head?_escape_ne (h : mark ≠ '\\') (c : Char) (t : Text) :
    (escape mark c ++ t).head? ≠ some mark := by
  unfold escape
  split
  · simpa using h.symm
  · next hc =>
    have hmark : c ≠ mark := fun he => hc (Or.inr he)
    repeat' split
    all_goals simp [h.symm, hmark]

/-! ## Texts -/

/-- The induction uses up one written code point after the other. None of them begins with the mark,
so that the reading first ends at the mark behind the last. -/
theorem readUntil?_escapes (h : mark = singleQuote ∨ mark = doubleQuote) (t rest : Text) :
    readUntil? mark (t.flatMap (escape mark) ++ mark :: rest) = some (t, rest) := by
  have hslash : mark ≠ '\\' := by
    rcases h with rfl | rfl <;> decide
  induction t with
  | nil => exact readUntil?_mark mark rest
  | cons c t ih =>
    rw [List.flatMap_cons, List.append_assoc,
      readUntil?_of_unescape? (head?_escape_ne hslash c _) (unescape?_escape h c _), ih]
    rfl

/-- A quoted text is read back, and so is what stands behind it. -/
theorem unquote?_quote (t rest : Text) : unquote? (quote t ++ rest) = some (t, rest) := by
  have hmark := quoteMark_eq_or t
  rw [quote, List.cons_append, List.append_assoc, List.singleton_append, unquote?, if_pos hmark]
  exact readUntil?_escapes hmark t rest

/-- So are escapes that are never written. -/
example : unquote? "'it\\x27s' so".toList = some ("it's".toList, " so".toList) := by decide +kernel

theorem quote_append_inj {t t' rest rest' : Text}
    (h : quote t ++ rest = quote t' ++ rest') : t = t' ∧ rest = rest' := by
  have hread := unquote?_quote t rest
  rw [h, unquote?_quote, Option.some.injEq, Prod.mk.injEq] at hread
  exact ⟨hread.1.symm, hread.2.symm⟩

end MarkedText.Text
