import MarkedText.Text.Basic
import MarkedText.Text.Printable

/-!
# Quoted text

A text written between two quote marks so that it fits on one line and no two texts look alike. The
mark is a single quote, or a double one when the text holds a single quote and no double one. A
backslash, the mark and every code point that does not print are escaped.

* `quote_eq`: mark, escaped code points, mark.
* `lineEnd_notMem_quote`: a quoted text holds neither a line feed nor a carriage return.
-/

namespace MarkedText.Text

def singleQuote : Char := '\x27'

def doubleQuote : Char := '\x22'

/-- The mark around `t`: double only where that saves escaping. -/
def quoteMark (t : Text) : Char :=
  if singleQuote ∈ t ∧ doubleQuote ∉ t then doubleQuote else singleQuote

/-- `n` in base sixteen, lower case, in at least `width` places, zeros first. -/
def hex (width n : Nat) : Text :=
  List.replicate (width - (Nat.toDigits 16 n).length) '0' ++ Nat.toDigits 16 n

/-- The written form of one code point between marks `mark`. -/
def escape (mark c : Char) : Text :=
  if c = '\\' ∨ c = mark then ['\\', c]
  else if c = '\t' then ['\\', 't']
  else if c = '\n' then ['\\', 'n']
  else if c = '\r' then ['\\', 'r']
  else if isPrintable c then [c]
  else if c.toNat < 0x100 then '\\' :: 'x' :: hex 2 c.toNat
  else if c.toNat < 0x10000 then '\\' :: 'u' :: hex 4 c.toNat
  else '\\' :: 'U' :: hex 8 c.toNat

/-- The quoted form of a text. -/
def quote (t : Text) : Text :=
  quoteMark t :: (t.flatMap (escape (quoteMark t)) ++ [quoteMark t])

theorem quote_eq (t : Text) :
    quote t = [quoteMark t] ++ t.flatMap (escape (quoteMark t)) ++ [quoteMark t] := by
  simp [quote]

theorem quoteMark_eq_or (t : Text) : quoteMark t = singleQuote ∨ quoteMark t = doubleQuote := by
  unfold quoteMark; split <;> simp

/-! ## No line ends -/

theorem exists_digitChar_of_mem_toDigits {n : Nat} {c : Char} (h : c ∈ Nat.toDigits 16 n) :
    ∃ d, d < 16 ∧ c = Nat.digitChar d := by
  induction n using Nat.strongRecOn with
  | ind n ih =>
    rw [Nat.toDigits_eq_if (by decide)] at h
    split at h
    · next hn => exact ⟨n, hn, by simpa using h⟩
    · next hn =>
      rcases List.mem_append.1 h with h | h
      · exact ih (n / 16) (by omega) h
      · exact ⟨n % 16, Nat.mod_lt _ (by decide), by simpa using h⟩

theorem exists_digitChar_of_mem_hex {width n : Nat} {c : Char} (h : c ∈ hex width n) :
    ∃ d, d < 16 ∧ c = Nat.digitChar d := by
  rcases List.mem_append.1 h with h | h
  · exact ⟨0, by decide, (List.mem_replicate.1 h).2⟩
  · exact exists_digitChar_of_mem_toDigits h

theorem digitChar_ne_lineEnd {d : Nat} (h : d < 16) :
    Nat.digitChar d ≠ '\n' ∧ Nat.digitChar d ≠ '\r' := by
  have all : ∀ e ∈ List.range 16, Nat.digitChar e ≠ '\n' ∧ Nat.digitChar e ≠ '\r' := by decide
  exact all d (List.mem_range.2 h)

theorem lineEnd_notMem_hex (width n : Nat) : '\n' ∉ hex width n ∧ '\r' ∉ hex width n := by
  refine ⟨fun h => ?_, fun h => ?_⟩ <;>
    obtain ⟨d, hd, he⟩ := exists_digitChar_of_mem_hex h
  · exact (digitChar_ne_lineEnd hd).1 he.symm
  · exact (digitChar_ne_lineEnd hd).2 he.symm

theorem lineEnd_notMem_escape {mark : Char} (hm : mark ≠ '\n' ∧ mark ≠ '\r') (c : Char) :
    '\n' ∉ escape mark c ∧ '\r' ∉ escape mark c := by
  have hx := lineEnd_notMem_hex
  unfold escape
  split
  · next h =>
    have hc : c ≠ '\n' ∧ c ≠ '\r' := by
      rcases h with rfl | rfl
      · decide
      · exact hm
    simp [hc.1.symm, hc.2.symm]
  · split
    · decide
    · split
      · decide
      · next hn =>
        split
        · decide
        · next hr =>
          split
          · simp [Ne.symm hn, Ne.symm hr]
          · split
            · simp [hx]
            · split <;> simp [hx]

theorem lineEnd_notMem_quote (t : Text) : '\n' ∉ quote t ∧ '\r' ∉ quote t := by
  have hm : quoteMark t ≠ '\n' ∧ quoteMark t ≠ '\r' := by
    rcases quoteMark_eq_or t with h | h <;> rw [h] <;> decide
  simp only [quote, List.mem_cons, List.mem_append, List.mem_flatMap, List.not_mem_nil, or_false]
  refine ⟨fun h => ?_, fun h => ?_⟩
  · rcases h with h | ⟨c, -, h⟩ | h
    · exact hm.1 h.symm
    · exact (lineEnd_notMem_escape hm c).1 h
    · exact hm.1 h.symm
  · rcases h with h | ⟨c, -, h⟩ | h
    · exact hm.2 h.symm
    · exact (lineEnd_notMem_escape hm c).2 h
    · exact hm.2 h.symm

end MarkedText.Text
