import MarkedText.Text.Quoted

/-!
# Delimiters of markers

A marker is written as a glyph, an opener, a label that may be empty, and a closer. The three
delimiters are single code points, none of them a line end, and pairwise distinct.

* `ofTexts`: delimiters from three texts, or the first defect: each part in turn is checked to be
  one code point and then to be no line end; distinctness comes last.
* `ofTexts_texts`: all delimiters arise that way.
-/

namespace MarkedText

/-- The three parts that delimit a marker. -/
inductive Delimiters.Part where
  | glyph
  | opener
  | closer
  deriving DecidableEq, Repr

/-- A code point that ends a line, alone or as part of a pair. -/
def IsLineEnd (c : Char) : Prop := c = '\n' ∨ c = '\r'

instance (c : Char) : Decidable (IsLineEnd c) := inferInstanceAs (Decidable (_ ∨ _))

structure Delimiters where
  glyph : Char
  opener : Char
  closer : Char
  glyph_inline : ¬ IsLineEnd glyph
  opener_inline : ¬ IsLineEnd opener
  closer_inline : ¬ IsLineEnd closer
  glyph_ne_opener : glyph ≠ opener
  glyph_ne_closer : glyph ≠ closer
  opener_ne_closer : opener ≠ closer
  deriving DecidableEq

namespace Delimiters

/-- A cactus before a pair of parentheses. -/
def standard : Delimiters where
  glyph := '🌵'
  opener := '('
  closer := ')'
  glyph_inline := by decide
  opener_inline := by decide
  closer_inline := by decide
  glyph_ne_opener := by decide
  glyph_ne_closer := by decide
  opener_ne_closer := by decide

/-- The written marker with the given label. -/
def token (d : Delimiters) (label : Text) : Text := d.glyph :: d.opener :: (label ++ [d.closer])

theorem length_token (d : Delimiters) (label : Text) :
    (d.token label).length = label.length + 3 := by
  simp [token]

/-! ## Delimiters from texts -/

/-- Why three texts are no delimiters. -/
inductive Defect where
  | notSingle (p : Part) (t : Text)
  | lineEnd (p : Part)
  | notDistinct
  deriving DecidableEq, Repr

def Part.name : Part → Text
  | glyph => "glyph".toList
  | opener => "open".toList
  | closer => "close".toList

def Defect.message : Defect → Text
  | notSingle p t => "MarkerSyntax.".toList ++ p.name ++
      " must be a single codepoint, got ".toList ++ Text.quote t
  | lineEnd p => "MarkerSyntax.".toList ++ p.name ++ " must not be a line terminator".toList
  | notDistinct => "MarkerSyntax glyph, open and close must be distinct".toList

/-- The one code point of a text that may serve as part `p`. -/
def single (p : Part) : Text → Except Defect { c : Char // ¬ IsLineEnd c }
  | [c] => if h : IsLineEnd c then .error (.lineEnd p) else .ok ⟨c, h⟩
  | t => .error (.notSingle p t)

def ofTexts (glyph opener closer : Text) : Except Defect Delimiters := do
  let g ← single .glyph glyph
  let o ← single .opener opener
  let c ← single .closer closer
  if h : g.1 ≠ o.1 ∧ g.1 ≠ c.1 ∧ o.1 ≠ c.1 then
    .ok ⟨g.1, o.1, c.1, g.2, o.2, c.2, h.1, h.2.1, h.2.2⟩
  else .error .notDistinct

theorem single_eq {c : Char} (p : Part) (h : ¬ IsLineEnd c) : single p [c] = .ok ⟨c, h⟩ := by
  simp [single, h]

theorem ofTexts_texts (d : Delimiters) : ofTexts [d.glyph] [d.opener] [d.closer] = .ok d := by
  have h := And.intro d.glyph_ne_opener (And.intro d.glyph_ne_closer d.opener_ne_closer)
  simp only [ofTexts, single_eq _ d.glyph_inline, single_eq _ d.opener_inline,
    single_eq _ d.closer_inline, bind, Except.bind]
  rw [dif_pos h]

/-- The delimiters with their parts named. -/
def repr (d : Delimiters) : Text :=
  "MarkerSyntax(glyph=".toList ++ Text.quote [d.glyph] ++ ", open=".toList ++
    Text.quote [d.opener] ++ ", close=".toList ++ Text.quote [d.closer] ++ ")".toList

end Delimiters

end MarkedText
