import MarkedText.Text.Blank
import MarkedText.Text.Digit
import MarkedText.Text.Quoted

/-!
# Numerals

Reading an integer from a text: blanks on both sides, one sign, then decimal digits of any script
with single underscores between digits. Texts of more than `Numeral.digitLimit` digits are refused,
leading zeros counted. The digit run is judged before what follows it, so a run that is too long is
reported as such even when something else stands behind it.

* `read`: the value, or the reason for refusal.
* `grouped_of_digits`: a run without underscores is well formed when it is not empty.
* `positional_append`: one more digit multiplies by ten and adds.
-/

namespace MarkedText

namespace Numeral

/-- Why a text is not read as an integer. -/
inductive Refusal where
  | notANumber (t : Text)
  | tooLong (digits : Nat)
  deriving DecidableEq, Repr

/-- No more digits than this are read. -/
def digitLimit : Nat := 4300

/-- The refusal in words; a text is quoted and cut to two hundred code points. -/
def Refusal.message : Refusal → Text
  | .notANumber t => "invalid literal for int() with base 10: ".toList ++ (Text.quote t).take 200
  | .tooLong n => "Exceeds the limit (".toList ++ Text.ofNat digitLimit ++
      " digits) for integer string conversion: value has ".toList ++ Text.ofNat n ++
      " digits; use sys.set_int_max_str_digits() to increase the limit".toList

/-- Whether the text opens with a minus sign, and what follows the sign if there is one. -/
def splitSign : Text → Bool × Text
  | '-' :: t => (true, t)
  | '+' :: t => (false, t)
  | t => (false, t)

/-- A code point that may stand in a digit run. -/
def inRun (c : Char) : Bool := c == '_' || (Text.decimal? c).isSome

/-- Whether each underscore of a run stands between two digits, and a digit ends it; the flag says
whether a digit stands right before. -/
def grouped : Bool → Text → Bool
  | afterDigit, [] => afterDigit
  | afterDigit, c :: t => if c = '_' then afterDigit && grouped false t else grouped true t

/-- The values of the digits of a run. -/
def digitValues (run : Text) : List Nat := run.filterMap Text.decimal?

/-- The value of a row of decimal digits. -/
def positional (digits : List Nat) : Nat := digits.foldl (fun n d => 10 * n + d) 0

/-- The value with the sign that was read. -/
def withSign (negative : Bool) (n : Nat) : Int := if negative then -n else n

/-- The integer that the text spells. -/
def read (t : Text) : Except Refusal Int :=
  let signed := splitSign (Text.dropBlanks t)
  let run := signed.2.takeWhile inRun
  let rest := signed.2.dropWhile inRun
  if ¬ grouped false run then .error (.notANumber t)
  else if digitLimit < (digitValues run).length then .error (.tooLong (digitValues run).length)
  else if ¬ rest.all Text.isBlank then .error (.notANumber t)
  else .ok (withSign signed.1 (positional (digitValues run)))

/-- Without underscores, a run is well formed once it holds a digit. -/
theorem grouped_of_digits {run : Text} (h : ∀ c ∈ run, c ≠ '_') (b : Bool) :
    grouped b run = (b || !run.isEmpty) := by
  induction run generalizing b with
  | nil => simp [grouped]
  | cons c t ih =>
    have hc : c ≠ '_' := h c (List.mem_cons_self ..)
    simp [grouped, hc, ih (fun d hd => h d (List.mem_cons_of_mem _ hd))]

theorem positional_append (ds : List Nat) (d : Nat) :
    positional (ds ++ [d]) = 10 * positional ds + d := by
  simp [positional]

end Numeral

end MarkedText
