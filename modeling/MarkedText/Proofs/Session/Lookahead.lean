import MarkedText.Proofs.Session.Descent
import MarkedText.Proofs.Session.Replays

/-!
# Looking ahead

To look ahead from a cursor is to look at where a copy of it would come by moving: both read the
text at the sum of index and offset. Moving stops at the end and looking does not, but behind the
end there is nothing to see, as there is at it. Before the start there is nothing either: an offset
back is never counted from the end of the text.

* `Cursor.peek_eq_of_index`, `Cursor.peek_forward`: looking from one cursor and from another.
* `Cursor.current_eq`: the code point at a cursor, or the fault at the end.
* `lookUp_of_create`, `lookUp_step_advance`: the cursor under a name, once made and once moved.
* `lookUp_rounds`, `codePoints_rounds`: walking through a document and looking at every step.
* `reply_ahead`, `reply_back`: what a copy sees, and a cursor placed further back.
* `lookahead_eq`: what can be seen from a cursor of a session.
-/

namespace MarkedText

namespace Cursor

/-- What is seen depends only on where it is looked for. -/
theorem peek_eq_of_index {b c : Cursor} {offset : Int} (hd : b.document = c.document)
    (hi : (b.index : Int) = c.index + offset) : c.peek offset = b.peek 0 := by
  simp only [peek, hd, hi, Int.add_zero]

theorem isEnd_forward (c : Cursor) (n : Nat) :
    (c.forward n).isEnd = true ↔ c.document.size ≤ c.index + n := by
  simp only [isEnd, document_forward, index_forward, beq_iff_eq]
  omega

theorem peek_forward (c : Cursor) (k : Nat) : c.peek k = (c.forward k).peek 0 := by
  by_cases h : c.index + k ≤ c.document.size
  · refine peek_eq_of_index rfl ?_
    rw [index_forward, Nat.min_eq_left h, Int.natCast_add]
  · -- Moving stops short of where looking goes, and there is nothing at either place.
    have hend : (c.forward k).isEnd = true := (isEnd_forward c k).2 (by omega)
    rw [(isEnd_iff_peek _).1 hend, peek_eq, List.getElem?_eq_none_iff, ← Document.size_eq]
    omega

theorem exists_peek_back (c : Cursor) {k : Nat} (h0 : 0 < k) (hk : k ≤ c.index) :
    ∃ x, c.peek (-k) = some x := by
  have hle : c.index ≤ c.document.chars.size := c.index_le
  have hlt : ((c.index : Int) + -k).toNat < c.document.chars.size := by omega
  exact ⟨_, by rw [peek, if_pos (by omega), Array.getElem?_eq_getElem hlt]⟩

theorem current_eq (c : Cursor) :
    c.current = match c.peek 0 with
      | some x => .ok x
      | none => .error (.endOfText c.index) := by
  cases hp : c.peek 0 with
  | some x => exact (current_eq_ok_iff c x).2 hp
  | none =>
    rw [show (0 : Int) = ((0 : Nat) : Int) from rfl, peek_eq, Nat.add_zero, Document.text,
      Array.getElem?_toList] at hp
    simp only [current, hp]

end Cursor

namespace Session

variable {s : Session} {order : Step} {h : Handle} {c x : Cursor} {name : Text}

/-! ## Questions -/

/-- What a step answers that gives no name. -/
def reply (s : Session) (order : Step) : Except Fault Reply := (s.step order none).2

/-- Looking changes nothing. -/
theorem step_peek (hl : s.lookUp asCursor name = .ok (h, c)) (offset : Int) :
    s.step (.peek name offset) none = (s, .ok (.codePoint (c.peek offset))) := by
  simp only [step, perform, hl, attempt]
  rfl

theorem reply_peek (hl : s.lookUp asCursor name = .ok (h, c)) (offset : Int) :
    s.reply (.peek name offset) = .ok (.codePoint (c.peek offset)) := by
  rw [reply, step_peek hl]

theorem reply_state (hl : s.lookUp asCursor name = .ok (h, c)) :
    s.reply (.state name) = .ok (.state c) := by
  simp only [reply, step, perform, hl, attempt]
  rfl

theorem reply_current (hl : s.lookUp asCursor name = .ok (h, c)) :
    s.reply (.current name) = c.current.map fun x => .codePoint (some x) := by
  simp only [reply, step, perform, hl, attempt, answer]
  cases c.current <;> rfl

/-! ## New cursors and moves -/

theorem perform_clone (hl : s.lookUp asCursor name = .ok (h, c)) :
    s.perform (.clone name) = s.create (.cursor c) (.cursor c) := by
  simp only [perform, hl, attempt]
  rfl

theorem perform_cursor (hl : s.lookUp asCursor name = .ok (h, c)) {i : Int}
    (hx : Cursor.at? c.document i = .ok x) :
    s.perform (.cursor name i) = s.create (.cursor x) (.cursor x) := by
  simp only [perform, lookUp_asDocument_of Cursor.document asDocument_of_asCursor hl, attempt,
    createCursor, hx]

/-- A new cursor is found under the name that it is given. -/
theorem lookUp_of_create (hp : s.perform order = s.create (.cursor x) (.cursor x)) (copy : Text) :
    (s.step order (some copy)).1.lookUp asCursor copy = .ok (s.objects.size, x) := by
  simp only [step, hp, create, named]
  exact lookUp_asCursor.2 ⟨find?_bind_self _ _ _, object?_add_new _ _⟩

theorem lookUp_step_advance (hl : s.lookUp asCursor name = .ok (h, c)) (k : Nat) :
    (s.step (.advance name k) none).1.lookUp asCursor name = .ok (h, c.forward k) := by
  have hobject := object?_of_moves (.advance hl (Int.natCast_nonneg k)) none
  have hname : (s.step (.advance name k) none).1.names = s.names := by
    simp only [step, perform, hl, attempt, Cursor.advance_ofNat]
    rfl
  refine lookUp_asCursor.2 ⟨?_, hobject⟩
  rw [find?, hname]
  exact (lookUp_asCursor.1 hl).1

/-! ## Walking through a document -/

/-- What the steps of a run answer, one after the other. -/
def replies : Session → List (Step × Option Text) → List (Except Fault Reply)
  | _, [] => []
  | s, order :: rest => (s.step order.1 order.2).2 :: replies (s.step order.1 order.2).1 rest

theorem replies_append (s : Session) (before after : List (Step × Option Text)) :
    s.replies (before ++ after) = s.replies before ++ (s.run before).replies after := by
  induction before generalizing s with
  | nil => rfl
  | cons order rest ih => simp only [List.cons_append, replies, ih, run_cons]

/-- The code points among some answers. -/
def codePoints (answers : List (Except Fault Reply)) : Text :=
  answers.filterMap fun
    | .ok (.codePoint x) => x
    | _ => none

theorem codePoints_append (before after : List (Except Fault Reply)) :
    codePoints (before ++ after) = codePoints before ++ codePoints after :=
  List.filterMap_append

/-- Looking at the code point at a cursor and moving on by one, so many times. -/
def rounds (name : Text) : Nat → List (Step × Option Text)
  | 0 => []
  | n + 1 => rounds name n ++ [(.peek name 0, none), (.advance name 1, none)]

theorem lookUp_rounds (hl : s.lookUp asCursor name = .ok (h, c)) (n : Nat) :
    (s.run (rounds name n)).lookUp asCursor name = .ok (h, c.forward n) := by
  induction n with
  | zero => rw [Cursor.forward_zero]; exact hl
  | succ n ih =>
    rw [rounds, run_append, run_cons, step_peek ih, run_cons, run_nil]
    have hmoved := lookUp_step_advance ih 1
    rwa [Cursor.forward_forward] at hmoved

/-- The walk collects the text, because looking at every step is looking ahead from where the walk
began. -/
theorem codePoints_rounds (hl : s.lookUp asCursor name = .ok (h, c)) (n : Nat) :
    codePoints (s.replies (rounds name n)) = (c.document.text.drop c.index).take n := by
  induction n with
  | zero => rfl
  | succ n ih =>
    have hn := lookUp_rounds hl n
    have hround : codePoints ((s.run (rounds name n)).replies
        [(.peek name 0, none), (.advance name 1, none)]) = (c.peek n).toList := by
      have hmoved := step_advance_eq_ok hn (Int.natCast_nonneg 1) none
      rw [Int.natCast_one] at hmoved
      simp only [replies, step_peek hn, hmoved, codePoints, Cursor.peek_forward c n]
      cases (c.forward n).peek 0 <;> rfl
    rw [rounds, replies_append, codePoints_append, ih, hround, Cursor.peek_eq, List.take_add_one,
      List.getElem?_drop]

/-! ## What can be seen -/

theorem reply_ahead (hl : s.lookUp asCursor name = .ok (h, c)) (copy : Text) (k : Nat) :
    (s.run [(.clone name, some copy), (.advance copy k, none)]).reply (.peek copy 0) =
      .ok (.codePoint (c.peek k)) := by
  have hcopy := lookUp_of_create (perform_clone hl) copy
  rw [run_cons, run_cons, run_nil, reply_peek (lookUp_step_advance hcopy k), Cursor.peek_forward]

theorem reply_back (hl : s.lookUp asCursor name = .ok (h, c)) (copy : Text) {k : Nat}
    (hk : k ≤ c.index) :
    (s.run [(.cursor name (c.index - k), some copy)]).reply (.peek copy 0) =
      .ok (.codePoint (c.peek (-k))) := by
  have hle := c.index_le
  obtain ⟨b, hb, hd, hi⟩ := Cursor.exists_at? (d := c.document) (i := c.index - k) (by omega)
    (by omega)
  rw [run_cons, run_nil, reply_peek (lookUp_of_create (perform_cursor hl hb) copy),
    Cursor.peek_eq_of_index hd hi]

/-- **Looking ahead.** What a cursor sees so far ahead is what a copy sees that has moved so far on, or
to the end. What it sees so far back is what a cursor sees that is placed there; before the start there
is nothing. At the cursor itself there is nothing exactly at the end, where asking for the current code
point is a fault; elsewhere both give that code point. A walk from the start that looks at every step
has seen the text when it comes to the end, after as many steps as the text has code points. -/
theorem lookahead_eq (hl : s.lookUp asCursor name = .ok (h, c)) (copy : Text) :
    (∀ k : Nat, ∃ seen, s.reply (.peek name k) = .ok (.codePoint seen) ∧
      (s.run [(.clone name, some copy), (.advance copy k, none)]).reply (.peek copy 0) =
        .ok (.codePoint seen)) ∧
    (∀ k : Nat, 0 < k → k ≤ c.index → ∃ seen, s.reply (.peek name (-k)) =
        .ok (.codePoint (some seen)) ∧
      (s.run [(.cursor name (c.index - k), some copy)]).reply (.peek copy 0) =
        .ok (.codePoint (some seen))) ∧
    (∀ k : Nat, c.index < k → s.reply (.peek name (-k)) = .ok (.codePoint none)) ∧
    (s.reply (.state name) = .ok (.state c) ∧
      (s.reply (.peek name 0) = .ok (.codePoint none) ↔ c.isEnd = true) ∧
      (s.reply (.current name) = .error (.endOfText c.index) ↔ c.isEnd = true) ∧
      (c.isEnd = false → ∃ seen, s.reply (.peek name 0) = .ok (.codePoint (some seen)) ∧
        s.reply (.current name) = .ok (.codePoint (some seen)))) ∧
    let start := s.run [(.cursor name 0, some copy)]
    ∀ n, ∃ walker, (start.run (rounds copy n)).reply (.state copy) = .ok (.state walker) ∧
      (walker.isEnd = true ↔ c.document.size ≤ n) ∧
      codePoints (start.replies (rounds copy n)) = c.document.text.take n ∧
      (walker.isEnd = true → codePoints (start.replies (rounds copy n)) = c.document.text) := by
  refine ⟨fun k => ⟨_, reply_peek hl k, reply_ahead hl copy k⟩, fun k h0 hk => ?_, fun k hk => ?_,
    ⟨reply_state hl, ?_, ?_, fun hend => ?_⟩, fun n => ?_⟩
  · obtain ⟨seen, hseen⟩ := c.exists_peek_back h0 hk
    exact ⟨seen, hseen ▸ reply_peek hl (-k), hseen ▸ reply_back hl copy hk⟩
  · rw [reply_peek hl, Cursor.peek_of_negative (by omega)]
  · rw [reply_peek hl, Cursor.isEnd_iff_peek]
    simp
  · rw [reply_current hl, Cursor.isEnd_iff_peek, Cursor.current_eq]
    cases c.peek 0 <;> simp [Except.map]
  · rw [reply_peek hl, reply_current hl, Cursor.current_eq]
    cases hp : c.peek 0 with
    | some seen => exact ⟨seen, rfl, rfl⟩
    | none =>
      rw [← Cursor.isEnd_iff_peek, hend] at hp
      cases hp
  · obtain ⟨b, hb, hd, hi⟩ := Cursor.exists_at? (d := c.document) (i := 0) (Int.le_refl 0)
      (Int.natCast_nonneg _)
    have hstart := lookUp_of_create (perform_cursor hl hb) copy
    have hi : b.index = 0 := Int.natCast_eq_zero.1 hi
    have hcollected := codePoints_rounds hstart n
    rw [hd, hi, List.drop_zero] at hcollected
    have hend : (b.forward n).isEnd = true ↔ c.document.size ≤ n := by
      rw [Cursor.isEnd_forward, hd, hi, Nat.zero_add]
    refine ⟨_, reply_state (lookUp_rounds hstart n), hend, hcollected, fun hwalked => ?_⟩
    exact hcollected.trans (List.take_of_length_le (Document.size_eq _ ▸ hend.1 hwalked))

/-- A cursor between the two code points of a text. -/
def betweenRun : List (Step × Option Text) :=
  [(.document "a\n".toList, some "d".toList), (.cursor "d".toList 1, some "c".toList)]

theorem lookahead_between :
    ((empty.run betweenRun).run [(.clone "c".toList, some "e".toList),
        (.advance "e".toList 1000000000000, none)]).reply (.peek "e".toList 0) =
      (empty.run betweenRun).reply (.peek "c".toList 1000000000000) ∧
    ((empty.run betweenRun).run [(.cursor "c".toList 0, some "e".toList)]).reply
      (.peek "e".toList 0) = (empty.run betweenRun).reply (.peek "c".toList (-1)) ∧
    (empty.run betweenRun).reply (.peek "c".toList (-2)) = .ok (.codePoint none) ∧
    (empty.run betweenRun).reply (.current "c".toList) = .ok (.codePoint (some '\n')) ∧
    codePoints (((empty.run betweenRun).run [(.cursor "c".toList 0, some "e".toList)]).replies
      (rounds "e".toList 2)) = "a\n".toList := by
  have hl : (empty.run betweenRun).lookUp asCursor "c".toList =
      .ok (1, ⟨.ofText 0 "a\n".toList, 1, by decide⟩) := by
    rfl
  obtain ⟨hahead, hback, hbehind, ⟨-, -, -, hhere⟩, hwalk⟩ := lookahead_eq hl "e".toList
  obtain ⟨ahead, hpeek, hcopy⟩ := hahead 1000000000000
  obtain ⟨back, hbefore, hplaced⟩ := hback 1 (by decide) (by decide)
  obtain ⟨here, hseen, hcurrent⟩ := hhere (by decide)
  obtain ⟨walker, -, -, hwalked, -⟩ := hwalk 2
  refine ⟨hcopy.trans hpeek.symm, hplaced.trans hbefore.symm, hbehind 2 (by decide), ?_, hwalked⟩
  rw [hcurrent, ← hseen]
  rfl

end Session

end MarkedText
