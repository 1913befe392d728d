import MarkedText.Capture.Basic
import MarkedText.Proofs.Text.Rows
import MarkedText.Proofs.Text.Unquoted

/-!
# How documents and captures are shown

A document is shown as its quoted text, and a capture as its quoted text and its positions. Both stay
on one line whatever the text holds. Both can be told from what is shown: the quoted text ends where
it says, so that a text that imitates the rest of a capture is not taken for it, and the positions are
the runs of digits and signs behind the text.

* `Value.numberRuns_repr_tuple`: the integers of a shown tuple, however many there are.
* `Document.repr_eq_iff`, `Capture.repr_eq_iff`: what is shown alike.
* `Document.lineEnd_notMem_repr`, `Capture.lineEnd_notMem_repr`: nothing breaks the line.
* `repr_unambiguous`: the main result.
-/

namespace MarkedText

namespace Text

theorem lineEnd_notMem_append {t u : Text} (ht : '\n' ∉ t ∧ '\r' ∉ t) (hu : '\n' ∉ u ∧ '\r' ∉ u) :
    '\n' ∉ t ++ u ∧ '\r' ∉ t ++ u :=
  ⟨List.not_mem_append ht.1 hu.1, List.not_mem_append ht.2 hu.2⟩

/-! ## Runs of digits -/

/-- A code point that a written integer may hold. -/
def inNumber (c : Char) : Bool := c.isDigit || c == '-'

/-- The runs of digits and minus signs in a text. -/
def numberRuns (t : Text) : List Text := (t.splitOnP fun c => !inNumber c).filter (· ≠ [])

theorem inNumber_of_mem_ofInt {n : Int} {c : Char} (h : c ∈ ofInt n) : inNumber c = true := by
  rcases eq_minus_or_isDigit_of_mem_ofInt h with rfl | h
  · rfl
  · simp [inNumber, h]

theorem numberRuns_ofInt (n : Int) : numberRuns (ofInt n) = [ofInt n] := by
  have hone : (ofInt n).splitOnP (fun c => !inNumber c) = [ofInt n] :=
    List.splitOnP_eq_singleton fun c hc => by rw [inNumber_of_mem_ofInt hc, Bool.not_true]
  simp [numberRuns, hone, ofInt_ne_nil]

variable {c : Char}

/-- A code point that belongs to no number keeps those on both sides of it apart. -/
theorem numberRuns_append_cons (h : inNumber c = false) (t u : Text) :
    numberRuns (t ++ c :: u) = numberRuns t ++ numberRuns u := by
  have hcut : (!inNumber c) = true := by rw [h, Bool.not_false]
  unfold numberRuns
  rw [List.splitOnP_append_cons t u hcut, List.filter_append]

theorem numberRuns_cons (h : inNumber c = false) (t : Text) : numberRuns (c :: t) = numberRuns t := by
  have hcut := numberRuns_append_cons h [] t
  rwa [List.nil_append] at hcut

end Text

/-! ## Tuples of integers -/

namespace Value

open Text

theorem reprAll_integers (ns : List Int) : reprAll (ns.map .integer) = ns.map ofInt := by
  induction ns with
  | nil => rfl
  | cons n ns ih =>
    rw [List.map_cons, reprAll, ih]
    rfl

/-- A tuple between its brackets: a single integer has a comma behind it. -/
def tupleBody : List Int → Text
  | [n] => ofInt n ++ ",".toList
  | ns => commas (ns.map ofInt)

theorem repr_tuple (ns : List Int) :
    (tuple (ns.map .integer)).repr = '(' :: (tupleBody ns ++ [')']) := by
  cases ns with
  | nil => rfl
  | cons n ns =>
    cases ns with
    | nil =>
      have hone : (tuple [integer n]).repr = '(' :: (ofInt n ++ [',', ')']) := rfl
      rw [List.map_singleton, hone, tupleBody, List.append_assoc]
      rfl
    | cons m ns =>
      have hmore : (tuple ((n :: m :: ns).map .integer)).repr =
          '(' :: (commas (reprAll ((n :: m :: ns).map .integer)) ++ [')']) := rfl
      rw [hmore, reprAll_integers]
      rfl

theorem numberRuns_commas (ns : List Int) : numberRuns (commas (ns.map ofInt)) = ns.map ofInt := by
  induction ns with
  | nil => simp [numberRuns, commas]
  | cons n ns ih =>
    cases ns with
    | nil =>
      rw [List.map_singleton, commas, List.intercalate_singleton]
      exact numberRuns_ofInt n
    | cons m ns =>
      have hcut : commas ((n :: m :: ns).map ofInt) =
          ofInt n ++ ',' :: ' ' :: commas ((m :: ns).map ofInt) := by
        simp [commas]
      rw [hcut, numberRuns_append_cons (by decide), numberRuns_cons (by decide), ih,
        numberRuns_ofInt]
      rfl

theorem numberRuns_tupleBody (ns : List Int) : numberRuns (tupleBody ns) = ns.map ofInt := by
  unfold tupleBody
  split
  · next n =>
    have hcomma : numberRuns (ofInt n ++ [',']) = numberRuns (ofInt n) ++ numberRuns [] :=
      numberRuns_append_cons (by decide) _ _
    rw [numberRuns_ofInt] at hcomma
    exact hcomma
  · exact numberRuns_commas ns

/-- The integers of a shown tuple are its runs of digits and signs. -/
theorem numberRuns_repr_tuple (ns : List Int) :
    numberRuns (tuple (ns.map .integer)).repr = ns.map ofInt := by
  have hclose := numberRuns_append_cons (c := ')') (by decide) (tupleBody ns) []
  rw [repr_tuple, numberRuns_cons (by decide), hclose, numberRuns_tupleBody]
  simp [numberRuns]

theorem repr_tuple_injective {ns ms : List Int}
    (h : (tuple (ns.map .integer)).repr = (tuple (ms.map .integer)).repr) : ns = ms := by
  have hruns := congrArg numberRuns h
  rw [numberRuns_repr_tuple, numberRuns_repr_tuple] at hruns
  exact List.map_injective_iff.2 ofInt_injective hruns

/-- Apart from its numbers a shown tuple has brackets, commas and blanks. -/
theorem mem_repr_tuple {ns : List Int} {c : Char} (h : c ∈ (tuple (ns.map .integer)).repr) :
    inNumber c = true ∨ c ∈ "(), ".toList := by
  have hnumber : ∀ n, ∀ c ∈ ofInt n, inNumber c = true ∨ c ∈ "(), ".toList :=
    fun n c hc => Or.inl (inNumber_of_mem_ofInt hc)
  have hbody : ∀ c ∈ tupleBody ns, inNumber c = true ∨ c ∈ "(), ".toList := by
    unfold tupleBody
    split
    · next n =>
      rw [List.forall_mem_append]
      exact ⟨hnumber n, by simp⟩
    · apply forall_mem_intercalate
      · simp
      · intro t ht
        obtain ⟨n, -, rfl⟩ := List.mem_map.1 ht
        exact hnumber n
  rw [repr_tuple, List.mem_cons, List.mem_append, List.mem_singleton] at h
  rcases h with rfl | h | rfl
  · exact Or.inr (by decide)
  · exact hbody c h
  · exact Or.inr (by decide)

theorem lineEnd_notMem_repr_tuple (ns : List Int) :
    '\n' ∉ (tuple (ns.map .integer)).repr ∧ '\r' ∉ (tuple (ns.map .integer)).repr :=
  ⟨fun h => absurd (mem_repr_tuple h) (by decide), fun h => absurd (mem_repr_tuple h) (by decide)⟩

end Value

/-! ## Documents -/

namespace Document

theorem repr_eq_iff (d e : Document) : d.repr = e.repr ↔ d.text = e.text := by
  constructor
  · intro h
    unfold repr at h
    rw [List.append_assoc, List.append_assoc, List.append_cancel_left_eq] at h
    exact (Text.quote_append_inj h).1
  · intro h
    unfold repr
    rw [h]

theorem lineEnd_notMem_repr (d : Document) : '\n' ∉ d.repr ∧ '\r' ∉ d.repr := by
  have hfront := Text.lineEnd_notMem_append (t := "Document(".toList) (by decide)
    (Text.lineEnd_notMem_quote d.text)
  exact Text.lineEnd_notMem_append hfront (by decide)

end Document

/-! ## Captures -/

namespace Capture

theorem repr_eq_iff (c c' : Capture) :
    c.repr = c'.repr ↔ c.document.text = c'.document.text ∧ c.positions = c'.positions := by
  constructor
  · intro h
    unfold repr at h
    simp only [List.append_assoc, List.append_cancel_left_eq] at h
    -- The positions stand at one place only once the quoted texts are known to end at one.
    obtain ⟨htext, hrest⟩ := Text.quote_append_inj h
    rw [List.append_cancel_left_eq, List.append_cancel_right_eq] at hrest
    exact ⟨htext, Value.repr_tuple_injective hrest⟩
  · intro ⟨htext, hpositions⟩
    unfold repr
    rw [htext, hpositions]

/-- A text that imitates the end of its capture is shown between other marks. -/
example : (Capture.mk (.ofText 0 "a', positions=(1,))".toList) []).repr =
    "CaptureResult(doc=\"a', positions=(1,))\", positions=())".toList := by decide

theorem lineEnd_notMem_repr (c : Capture) : '\n' ∉ c.repr ∧ '\r' ∉ c.repr := by
  have hfront := Text.lineEnd_notMem_append (t := "CaptureResult(doc=".toList) (by decide)
    (Text.lineEnd_notMem_quote c.document.text)
  have hpositions := Text.lineEnd_notMem_append (t := ", positions=".toList) (by decide)
    (Value.lineEnd_notMem_repr_tuple c.positions)
  have hall := Text.lineEnd_notMem_append hfront hpositions
  rw [← List.append_assoc] at hall
  exact Text.lineEnd_notMem_append hall (by decide)

end Capture

/-! ## Main result -/

/-- **No two alike.** What is shown of a capture tells its text and its positions and nothing else,
what is shown of a document its text. Neither breaks its line, whatever the text holds. -/
theorem repr_unambiguous :
    (∀ c c' : Capture,
      c.repr = c'.repr ↔ c.document.text = c'.document.text ∧ c.positions = c'.positions) ∧
    (∀ d d' : Document, d.repr = d'.repr ↔ d.text = d'.text) ∧
    (∀ c : Capture, '\n' ∉ c.repr ∧ '\r' ∉ c.repr) ∧
    ∀ d : Document, '\n' ∉ d.repr ∧ '\r' ∉ d.repr :=
  ⟨Capture.repr_eq_iff, Document.repr_eq_iff, Capture.lineEnd_notMem_repr,
    Document.lineEnd_notMem_repr⟩

end MarkedText
