import MarkedText.Text.Basic
import MarkedText.Text.Quoted

/-!
# Flat JSON objects

A record is a list of named numbers and texts. It is written as one JSON object on one line, in the
order of the list, with `, ` between members and `: ` behind each name. Only quotes, backslashes and
the controls below U+0020 are escaped.

* `control_notMem_jsonText`: no control below U+0020 is left in a written text.
-/

namespace MarkedText.Report

/-- A value of a record. -/
inductive Atom where
  | number (n : Nat)
  | text (t : Text)
  deriving DecidableEq, Repr

/-- Named values in order. -/
abbrev Record := List (Text × Atom)

/-- The written form of one code point of a JSON text. -/
def jsonEscape (c : Char) : Text :=
  if c = Text.doubleQuote then ['\\', Text.doubleQuote]
  else if c = '\\' then ['\\', '\\']
  else if c = '\n' then ['\\', 'n']
  else if c = '\r' then ['\\', 'r']
  else if c = '\t' then ['\\', 't']
  else if c = '\x0c' then ['\\', 'f']
  else if c = '\x08' then ['\\', 'b']
  else if c.toNat < 0x20 then '\\' :: 'u' :: Text.hex 4 c.toNat
  else [c]

/-- A JSON text. -/
def jsonText (t : Text) : Text :=
  Text.doubleQuote :: (t.flatMap jsonEscape ++ [Text.doubleQuote])

def Atom.json : Atom → Text
  | .number n => Text.ofNat n
  | .text t => jsonText t

/-- One member: name, colon, value. -/
def jsonMember (m : Text × Atom) : Text := jsonText m.1 ++ ": ".toList ++ m.2.json

/-- The record as one JSON object. -/
def Record.json (r : Record) : Text :=
  '\x7b' :: (List.intercalate ", ".toList (r.map jsonMember) ++ ['\x7d'])

/-! ## No controls -/

theorem digitChar_toNat_ge {d : Nat} (h : d < 16) : 0x20 ≤ (Nat.digitChar d).toNat := by
  have all : ∀ e ∈ List.range 16, 0x20 ≤ (Nat.digitChar e).toNat := by decide
  exact all d (List.mem_range.2 h)

theorem toNat_ge_of_mem_pair {x y d : Char} (hx : 0x20 ≤ x.toNat) (hy : 0x20 ≤ y.toNat)
    (hd : d ∈ [x, y]) : 0x20 ≤ d.toNat := by
  rcases List.mem_cons.1 hd with rfl | hd
  · exact hx
  · rw [List.mem_singleton.1 hd]; exact hy

theorem control_notMem_jsonEscape (c : Char) : ∀ d ∈ jsonEscape c, 0x20 ≤ d.toNat := by
  intro d hd
  unfold jsonEscape at hd
  split at hd
  · exact toNat_ge_of_mem_pair (by decide) (by decide) hd
  split at hd
  · exact toNat_ge_of_mem_pair (by decide) (by decide) hd
  split at hd
  · exact toNat_ge_of_mem_pair (by decide) (by decide) hd
  split at hd
  · exact toNat_ge_of_mem_pair (by decide) (by decide) hd
  split at hd
  · exact toNat_ge_of_mem_pair (by decide) (by decide) hd
  split at hd
  · exact toNat_ge_of_mem_pair (by decide) (by decide) hd
  split at hd
  · exact toNat_ge_of_mem_pair (by decide) (by decide) hd
  split at hd
  · rcases List.mem_cons.1 hd with rfl | hd
    · decide
    rcases List.mem_cons.1 hd with rfl | hd
    · decide
    obtain ⟨e, he, rfl⟩ := Text.exists_digitChar_of_mem_hex hd
    exact digitChar_toNat_ge he
  · next h =>
    rw [List.mem_singleton.1 hd]
    omega

theorem control_notMem_jsonText (t : Text) : ∀ d ∈ jsonText t, 0x20 ≤ d.toNat := by
  intro d hd
  simp only [jsonText, List.mem_cons, List.mem_append, List.mem_flatMap, List.not_mem_nil,
    or_false] at hd
  rcases hd with rfl | ⟨c, -, hd⟩ | rfl
  · decide
  · exact control_notMem_jsonEscape c d hd
  · decide

end MarkedText.Report
