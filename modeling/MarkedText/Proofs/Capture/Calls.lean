import MarkedText.Proofs.Session.Replays

/-!
# Calls of a replay over any capture

A capture may be put together by hand, and then its markers may lie outside its document. A call uses
up the next marker and then places a cursor at it; where that fails, the marker is used up all the
same. So the position of a replay counts the markers that it has been through, which are the cursors
that it has given and the markers that it had to skip. Only a call behind the last marker changes
nothing.

* `Replay.Called`, `Replay.called`: the three things that a call can do.
* `Replay.callEach_fst`, `Replay.getElem?_callEach`: the replay behind a row of calls, and the answer
  to each of them.
* `Replay.given_callEach`, `Replay.given_add_skipped`: how many of the calls have given a cursor.
* `Replay.call_eq_error`, `Replay.call_failed`: what a failing call does to its replay.
-/

namespace MarkedText

theorem Cursor.at?_eq_error {m : Marker} {d : Document} (h : ¬ m.LiesIn d) :
    at? d m.offset = .error (.indexOutside m.offset d.size) :=
  dif_neg h

namespace Replay

/-! ## One call -/

/-- The two ways of calling a replay. -/
inductive Call where
  | next
  | nextOrFinished
  deriving DecidableEq, Repr

/-- How a call fails behind the last marker. -/
def Call.atEnd (c : Capture) : Call → Fault
  | next => .exhausted c.markers.length
  | nextOrFinished => .finished

/-- The replay behind a call, and the answer. -/
def call (r : Replay) : Call → Replay × Except Fault Cursor
  | .next => r.next
  | .nextOrFinished => r.nextOrFinished

theorem call_eq_take (r : Replay) (how : Call) : r.call how = r.take (how.atEnd r.capture) := by
  cases how <;> rfl

/-- What a call makes of a replay, and its answer. -/
inductive Called (r : Replay) (how : Call) : Replay × Except Fault Cursor → Prop
  | given {m : Marker} {x : Cursor} (hm : r.capture.markers[r.position]? = some m)
      (hdocument : x.document = r.capture.document) (hindex : (x.index : Int) = m.offset) :
      Called r how (⟨r.capture, r.position + 1⟩, .ok x)
  | skipped {m : Marker} (hm : r.capture.markers[r.position]? = some m)
      (hout : ¬ m.LiesIn r.capture.document) :
      Called r how (⟨r.capture, r.position + 1⟩,
        .error (.indexOutside m.offset r.capture.document.size))
  | ended (hend : r.capture.markers.length ≤ r.position) :
      Called r how (r, .error (how.atEnd r.capture))

theorem called (r : Replay) (how : Call) : Called r how (r.call how) := by
  rw [call_eq_take]
  unfold take
  split
  · next m hm =>
    by_cases hin : m.LiesIn r.capture.document
    · obtain ⟨x, hx, hdocument, hindex⟩ := Cursor.exists_at? hin.1 hin.2
      rw [hx]
      exact .given hm hdocument hindex
    · rw [Cursor.at?_eq_error hin]
      exact .skipped hm hin
  · next hnone => exact .ended (List.getElem?_eq_none_iff.1 hnone)

/-! ## Rows of calls -/

/-- The replay behind a row of calls, and their answers. -/
def callEach (r : Replay) : List Call → Replay × List (Except Fault Cursor)
  | [] => (r, [])
  | how :: rest =>
    let first := r.call how
    let others := first.1.callEach rest
    (others.1, first.2 :: others.2)

theorem callEach_cons (r : Replay) (how : Call) (rest : List Call) :
    r.callEach (how :: rest) =
      (((r.call how).1.callEach rest).1, (r.call how).2 :: ((r.call how).1.callEach rest).2) := rfl

/-- How many of the answers are cursors. -/
def given (answers : List (Except Fault Cursor)) : Nat := answers.countP Except.isOk

@[simp] theorem given_ok (x : Cursor) (answers : List (Except Fault Cursor)) :
    given (.ok x :: answers) = given answers + 1 :=
  List.countP_cons_of_pos rfl

@[simp] theorem given_error (f : Fault) (answers : List (Except Fault Cursor)) :
    given (.error f :: answers) = given answers :=
  List.countP_cons_of_neg Bool.false_ne_true

variable {r : Replay}

theorem call_fst (h : r.position ≤ r.capture.markers.length) (how : Call) :
    (r.call how).1 = r.onward 1 := by
  rw [call_eq_take]
  exact take_fst h _

theorem onward_position_le (r : Replay) (k : Nat) :
    (r.onward k).position ≤ (r.onward k).capture.markers.length :=
  Nat.min_le_right _ _

/-- Every call uses up a marker as long as there is one. -/
theorem callEach_fst (h : r.position ≤ r.capture.markers.length) (calls : List Call) :
    (r.callEach calls).1 = r.onward calls.length := by
  induction calls generalizing r with
  | nil => exact (onward_zero h).symm
  | cons how rest ih =>
    have hfirst := call_fst h how
    have hrest := ih (onward_position_le r 1)
    rw [← hfirst] at hrest
    rw [callEach, List.length_cons, Nat.add_comm, ← onward_onward, ← hfirst]
    exact hrest

/-- A call answers by the marker whose turn it is. -/
theorem getElem?_callEach (h : r.position ≤ r.capture.markers.length) (calls : List Call) (i : Nat) :
    (r.callEach calls).2[i]? = calls[i]?.map fun how => ((r.onward i).call how).2 := by
  induction calls generalizing r i with
  | nil => rfl
  | cons how rest ih =>
    cases i with
    | zero => simp [callEach, onward_zero h]
    | succ i =>
      have hrest := ih (onward_position_le r 1) i
      rw [onward_onward, Nat.add_comm 1 i, ← call_fst h how] at hrest
      exact hrest

/-- Cursors are given for the markers that lie in the document. -/
theorem given_callEach (r : Replay) (calls : List Call) :
    given (r.callEach calls).2 = ((r.capture.markers.drop r.position).take calls.length).countP
      fun m => m.LiesIn r.capture.document := by
  induction calls generalizing r with
  | nil => rfl
  | cons how rest ih =>
    have hcalled := r.called how
    rw [callEach_cons]
    generalize r.call how = first at hcalled ⊢
    cases hcalled with
    | given hm hdocument hindex =>
      obtain ⟨hlt, rfl⟩ := List.getElem?_eq_some_iff.1 hm
      have hin : r.capture.markers[r.position].LiesIn r.capture.document := by
        rw [Marker.LiesIn, ← hindex, ← hdocument]
        exact ⟨Int.natCast_nonneg _, Int.ofNat_le.2 (Cursor.index_le _)⟩
      rw [given_ok, ih, List.drop_eq_getElem_cons hlt, List.length_cons, List.take_succ_cons]
      exact (List.countP_cons_of_pos (p := fun m : Marker => decide (m.LiesIn r.capture.document))
        (decide_eq_true hin)).symm
    | skipped hm hout =>
      obtain ⟨hlt, rfl⟩ := List.getElem?_eq_some_iff.1 hm
      rw [given_error, ih, List.drop_eq_getElem_cons hlt, List.length_cons, List.take_succ_cons]
      exact (List.countP_cons_of_neg (p := fun m : Marker => decide (m.LiesIn r.capture.document))
        (by simpa using hout)).symm
    | ended hend =>
      rw [given_error, ih, List.drop_eq_nil_of_le hend, List.take_nil, List.take_nil]

/-! ## Calls that fail -/

/-- A call fails at a marker outside the document, which it uses up, or behind the last marker. -/
theorem call_eq_error {how : Call} {f : Fault} (h : (r.call how).2 = .error f) :
    if r.position < r.capture.markers.length then
      (r.call how).1.position = r.position + 1 ∧ (r.call how).1.remaining + 1 = r.remaining ∧
        ∃ m, r.capture.markers[r.position]? = some m ∧ ¬ m.LiesIn r.capture.document ∧
          f = .indexOutside m.offset r.capture.document.size
    else (r.call how).1 = r ∧ f = how.atEnd r.capture := by
  have hcalled := r.called how
  generalize r.call how = answer at hcalled h ⊢
  cases hcalled with
  | given => cases h
  | @skipped m hm hout =>
    cases h
    have hlt := (List.getElem?_eq_some_iff.1 hm).1
    rw [if_pos hlt]
    refine ⟨rfl, ?_, m, hm, hout, rfl⟩
    unfold remaining
    simp only
    omega
  | ended hend =>
    cases h
    rw [if_neg (Nat.not_lt.2 hend)]
    exact ⟨rfl, rfl⟩

/-- Where all markers lie in the document only a call behind the last of them fails. -/
theorem call_fst_of_error (hp : r.capture.Placeable) {how : Call} {f : Fault}
    (h : (r.call how).2 = .error f) : (r.call how).1 = r := by
  have hfailed := call_eq_error h
  split at hfailed
  · obtain ⟨-, -, m, hm, hout, -⟩ := hfailed
    exact absurd (hp m (List.mem_of_getElem? hm)) hout
  · exact hfailed.1

/-! ## New replays -/

theorem callEach_ofCapture_fst (c : Capture) (calls : List Call) :
    ((ofCapture c).callEach calls).1 = ⟨c, min calls.length c.markers.length⟩ := by
  have hrun := callEach_fst (r := ofCapture c) (Nat.zero_le _) calls
  rwa [onward, ofCapture, Nat.zero_add] at hrun

theorem given_ofCapture (c : Capture) (calls : List Call) :
    given ((ofCapture c).callEach calls).2 =
      (c.markers.take (min calls.length c.markers.length)).countP fun m => m.LiesIn c.document := by
  have hcount := given_callEach (ofCapture c) calls
  rwa [ofCapture, List.drop_zero, List.take_eq_take_min] at hcount

/-- Behind a row of calls a new replay has been through the markers that it has placed cursors at, and
those that it has skipped. -/
theorem given_add_skipped (c : Capture) (calls : List Call) :
    let r := ((ofCapture c).callEach calls).1
    r.position = given ((ofCapture c).callEach calls).2 +
      (c.markers.take r.position).countP fun m => ¬ m.LiesIn c.document := by
  intro r
  have hposition : r.position = min calls.length c.markers.length :=
    congrArg position (callEach_ofCapture_fst c calls)
  have hsplit := (c.markers.take r.position).length_eq_countP_add_countP
    fun m => decide (m.LiesIn c.document)
  have hlength : (c.markers.take r.position).length = r.position := by
    rw [List.length_take]
    omega
  have hgiven := given_ofCapture c calls
  rw [← hposition] at hgiven
  rw [hlength, ← hgiven] at hsplit
  simpa using hsplit

theorem countP_not_liesIn {c : Capture} (hp : c.Placeable) (n : Nat) :
    (c.markers.take n).countP (fun m => ¬ m.LiesIn c.document) = 0 := by
  apply List.countP_eq_zero.2
  intro m hm
  have hin : m.LiesIn c.document := hp m (List.mem_of_mem_take hm)
  simpa using hin

/-- **Failing calls.** Behind any row of calls, the position of a replay is the number of cursors it has
given and of markers outside the document that it has skipped. A call that fails while there are
markers has met one more of these, and uses it up; a call that fails behind the last marker changes
nothing. So where all markers lie in the document the position counts cursors, and failing calls change
nothing at all. -/
theorem call_failed (c : Capture) (calls : List Call) (how : Call) :
    let r := ((ofCapture c).callEach calls).1
    let answers := ((ofCapture c).callEach calls).2
    let n := c.markers.length
    r.position = min calls.length n ∧ r.remaining = n - r.position ∧
    r.position =
      given answers + (c.markers.take r.position).countP (fun m => ¬ m.LiesIn c.document) ∧
    (∀ f, (r.call how).2 = .error f →
      if r.position < n then
        (r.call how).1.position = r.position + 1 ∧ (r.call how).1.remaining + 1 = r.remaining ∧
          ∃ m, c.markers[r.position]? = some m ∧ ¬ m.LiesIn c.document ∧
            f = .indexOutside m.offset c.document.size
      else (r.call how).1 = r ∧ f = how.atEnd c) ∧
    (c.Placeable →
      r.position = given answers ∧ ∀ f, (r.call how).2 = .error f → (r.call how).1 = r) := by
  intro r answers n
  have hr : r = ⟨c, min calls.length n⟩ := callEach_ofCapture_fst c calls
  have hcapture : r.capture = c := congrArg capture hr
  refine ⟨congrArg position hr, by rw [remaining, hcapture], given_add_skipped c calls,
    fun f hf => ?_, fun hp => ?_⟩
  · have hfailed := call_eq_error hf
    rwa [hcapture] at hfailed
  · refine ⟨?_, fun f hf => call_fst_of_error (hcapture ▸ hp) hf⟩
    calc r.position
      _ = given answers + (c.markers.take r.position).countP (fun m => ¬ m.LiesIn c.document) :=
        given_add_skipped c calls
      _ = given answers := by rw [countP_not_liesIn hp, Nat.add_zero]

/-- A marker at the start of a document, and one that is far behind its end. -/
def goodAndStray : Capture := ⟨.ofText 0 "ab".toList, [⟨0, none, 0⟩, ⟨5, none, 0⟩]⟩

theorem call_failed_goodAndStray :
    let r := ((ofCapture goodAndStray).callEach [.next, .nextOrFinished]).1
    let answers := ((ofCapture goodAndStray).callEach [.next, .nextOrFinished]).2
    r.position = 2 ∧ given answers = 1 ∧
      (r.call .next).2 = .error (.exhausted 2) ∧ (r.call .next).1 = r := by
  intro r answers
  obtain ⟨hposition, -, hcount, hfailed, -⟩ :=
    call_failed goodAndStray [.next, .nextOrFinished] .next
  change r.position = 2 at hposition
  have hf : (r.call .next).2 = .error (.exhausted 2) := by rfl
  have hend := hfailed _ hf
  rw [if_neg (by decide)] at hend
  have hskipped :
      (goodAndStray.markers.take 2).countP (fun m => ¬ m.LiesIn goodAndStray.document) = 1 := by
    decide
  rw [hposition, hskipped] at hcount
  exact ⟨hposition, Nat.succ.inj hcount.symm, hf, hend.1⟩

/-- A single marker far behind the end of its document. -/
def onlyStray : Capture := ⟨.ofText 0 "ab".toList, [⟨5, none, 0⟩]⟩

theorem call_onlyStray :
    (ofCapture onlyStray).position = 0 ∧ (ofCapture onlyStray).remaining = 1 ∧
    (ofCapture onlyStray).next = (⟨onlyStray, 1⟩, .error (.indexOutside 5 2)) ∧
    (ofCapture onlyStray).nextOrFinished = (⟨onlyStray, 1⟩, .error (.indexOutside 5 2)) ∧
    (⟨onlyStray, 1⟩ : Replay).remaining = 0 := by
  refine ⟨?_, ?_, ?_, ?_, ?_⟩ <;> rfl

end Replay

end MarkedText
