import MarkedText.Report.JsonScan
import MarkedText.Text.Quoted

/-!
# Reading quoted texts

The way back from a quoted text. The mark in front says where the text ends: at the next mark of its
kind that is not part of an escape. In between a code point stands for itself unless it is a
backslash. Behind that a letter may stand for a control, or may announce the number of a code point in
hexadecimal digits; anything else behind it stands for itself.

Refused are texts without a mark in front or without one at the end, and numbers that no code point
has.

* `unquote?`: the text that a quoted text stands for, and what is behind it.
* `length_unescape?_lt`: reading a code point leaves less to be read.
-/

namespace MarkedText.Text

/-! ## Escapes -/

/-- The number of hexadecimal digits that a letter behind a backslash announces. -/
def escapeWidth? (c : Char) : Option Nat :=
  if c = 'x' then some 2 else if c = 'u' then some 4 else if c = 'U' then some 8 else none

/-- What a code point behind a backslash stands for when it announces no digits. -/
def meaningOf (c : Char) : Char :=
  if c = 't' then '\t' else if c = 'n' then '\n' else if c = 'r' then '\r' else c

/-- The number that hexadecimal digits spell. -/
def hexNumber? (digits : Text) : Option Nat :=
  digits.foldlM (fun n c => (Report.hexValue? c).map (16 * n + ·)) 0

/-- The code point with the number `n`. -/
def codePoint? (n : Nat) : Option Char := if n.isValidChar then some (Char.ofNat n) else none

/-- The code point that an escape stands for, read from behind its backslash, and what is behind
the escape. -/
def readEscape? : Text → Option (Char × Text)
  | [] => none
  | c :: t =>
    match escapeWidth? c with
    | some width => ((hexNumber? (t.take width)).bind codePoint?).map fun x => (x, t.drop width)
    | none => some (meaningOf c, t)

/-- The first code point of a text, escapes read, and what is behind it. -/
def unescape? : Text → Option (Char × Text)
  | [] => none
  | c :: t => if c = '\\' then readEscape? t else some (c, t)

theorem length_readEscape?_lt {t : Text} {p : Char × Text} (h : readEscape? t = some p) :
    p.2.length < t.length := by
  cases t with
  | nil => cases h
  | cons c t =>
    rw [readEscape?] at h
    split at h
    · obtain ⟨x, -, rfl⟩ := Option.map_eq_some_iff.1 h
      simp only [List.length_drop, List.length_cons]
      omega
    · cases h
      exact Nat.lt_succ_self _

theorem length_unescape?_lt {t : Text} {p : Char × Text} (h : unescape? t = some p) :
    p.2.length < t.length := by
  cases t with
  | nil => cases h
  | cons c t =>
    rw [unescape?] at h
    split at h
    · exact Nat.lt_succ_of_lt (length_readEscape?_lt h)
    · cases h
      exact Nat.lt_succ_self _

/-! ## Texts -/

/-- The text up to the first bare `mark`, and what is behind the mark. -/
def readUntil? (mark : Char) (t : Text) : Option (Text × Text) :=
  if t.head? = some mark then some ([], t.tail)
  else
    match _h : unescape? t with
    | none => none
    | some p => (readUntil? mark p.2).map fun q => (p.1 :: q.1, q.2)
termination_by t.length
decreasing_by exact length_unescape?_lt _h

/-- The text that the quoted text at the front stands for, and what is behind it. -/
def unquote? : Text → Option (Text × Text)
  | [] => none
  | mark :: t => if mark = singleQuote ∨ mark = doubleQuote then readUntil? mark t else none

theorem readUntil?_mark (mark : Char) (t : Text) :
    readUntil? mark (mark :: t) = some ([], t) := by
  rw [readUntil?, if_pos]
  · rfl
  · rfl

theorem readUntil?_of_unescape? {mark c : Char} {t rest : Text} (hmark : t.head? ≠ some mark)
    (h : unescape? t = some (c, rest)) :
    readUntil? mark t = (readUntil? mark rest).map fun q => (c :: q.1, q.2) := by
  rw [readUntil?, if_neg hmark]
  split
  · next hnone =>
    rw [hnone] at h
    cases h
  · next p hsome =>
    rw [hsome] at h
    cases h
    rfl

end MarkedText.Text
