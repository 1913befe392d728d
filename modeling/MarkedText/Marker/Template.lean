import MarkedText.Marker.Scan

/-!
# Templates of marked texts

A template is a text cut into pieces with a marker between each and the next. It can be written as a
raw text, and it tells at once what stripping that text should give.

* `render_cons`, `length_renderPart`: how a template is written, and how long it becomes.
* `insertTokens`: the way back from a clean text and its markers.
-/

namespace MarkedText

/-- The first piece, then each marker's label with the piece behind it. -/
structure Template where
  head : Text
  tail : List (Option Text × Text)
  deriving DecidableEq, Repr

namespace Template

/-- The written form of one marker and the piece behind it. -/
def renderPart (d : Delimiters) (p : Option Text × Text) : Text := d.token (p.1.getD []) ++ p.2

/-- The raw text. -/
def render (d : Delimiters) (t : Template) : Text := t.head ++ t.tail.flatMap (renderPart d)

/-- The text without markers. -/
def clean (t : Template) : Text := t.head ++ t.tail.flatMap Prod.snd

/-- The markers of a tail that starts at offset `n` of the clean text and `m` of the raw one. -/
def markersFrom (d : Delimiters) : Nat → Nat → List (Option Text × Text) → List Marker
  | _, _, [] => []
  | n, m, p :: ps =>
    ⟨n, p.1, m⟩ :: markersFrom d (n + p.2.length) (m + (renderPart d p).length) ps

/-- The markers in order. -/
def markers (d : Delimiters) (t : Template) : List Marker :=
  markersFrom d t.head.length t.head.length t.tail

theorem render_cons (d : Delimiters) (head : Text) (p : Option Text × Text)
    (tail : List (Option Text × Text)) :
    render d ⟨head, p :: tail⟩ = head ++ renderPart d p ++ tail.flatMap (renderPart d) := by
  simp [render]

theorem length_renderPart (d : Delimiters) (p : Option Text × Text) :
    (renderPart d p).length = (p.1.getD []).length + 3 + p.2.length := by
  simp [renderPart, Delimiters.length_token]

end Template

/-- The clean text from offset `n` on with the tokens of the markers put back. -/
def insertTokens (d : Delimiters) : Nat → Text → List Marker → Text
  | _, t, [] => t
  | n, t, m :: ms =>
    t.take (m.offset.toNat - n) ++ d.token (m.label.getD []) ++
      insertTokens d m.offset.toNat (t.drop (m.offset.toNat - n)) ms

end MarkedText
