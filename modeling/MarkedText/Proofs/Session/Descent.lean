import Mathlib.Logic.ExistsUnique
import Mathlib.Logic.Relation
import MarkedText.Proofs.Marker.Reading
import MarkedText.Proofs.Session.Cursors

/-!
# Where documents come from

A document is made when a text is read, as a document or as a capture, and from then on passed on: to
the cursors placed in it, to their copies, to replays and to the cursors that these and look-ups give.
Objects have one document exactly when they descend from one reading of a text. Two readings give
two documents even where they read the same text, and cursors of two documents bound no slice.

* `MadeBy`, `MadeFrom`, `Descends`: how an object of a run has come about.
* `documentAt_run`: an object keeps its document.
* `numbered_run`: every document has a serial number below those that are still to be given.
* `Descends.documentAt_eq`, `existsUnique_ownsDocument`, `OwnsDocument.not_same`: descent and
  documents.
* `takeUntil_eq`: what the slice between two cursors of a session is.
-/

namespace MarkedText

namespace Session

/-! ## Descent -/

/-- The object at `h` was made by `order`, behind the steps `before` of a run. -/
structure MadeBy (orders : List (Step × Option Text)) (h : Handle)
    (before : List (Step × Option Text)) (order : Step) : Prop where
  split : ∃ name after, orders = before ++ (order, name) :: after
  handle : (empty.run before).objects.size = h
  made : h < ((empty.run before).perform order).1.objects.size

/-- Steps that read a text make a document of their own. -/
def readsText : Step → Bool
  | .document _ | .capture _ _ | .scan _ _ => true
  | _ => false

/-- The name of the object from which a step passes the document on to what it makes. -/
def donor : Step → Option Text
  | .cursor name _ | .assemble name _ | .clone name | .replay name | .cursorAt name _
  | .cursorNamed name _ | .next name | .nextOrFinished name => some name
  | _ => none

/-- The object at `h` was made together with its document. -/
def OwnsDocument (orders : List (Step × Option Text)) (h : Handle) : Prop :=
  ∃ before order, MadeBy orders h before order ∧ readsText order = true

/-- The object at `h` was made from the one at `p`. -/
def MadeFrom (orders : List (Step × Option Text)) (h p : Handle) : Prop :=
  ∃ before order name, MadeBy orders h before order ∧ donor order = some name ∧
    (empty.run before).find? name = some p

/-- The object at the first handle is the one at the second, or was made from it in some steps. -/
def Descends (orders : List (Step × Option Text)) : Handle → Handle → Prop :=
  Relation.ReflTransGen (MadeFrom orders)

/-! ## Documents of objects -/

/-- The document of the object at a handle. -/
def documentAt (s : Session) (h : Handle) : Option Document := (s.object? h).bind asDocument

variable {s : Session} {order : Step} {h k p : Handle} {o : Object} {d : Document} {name : Text}
  {orders before : List (Step × Option Text)}

theorem lookUp_asDocument :
    s.lookUp asDocument name = .ok (h, d) ↔ s.find? name = some h ∧ s.documentAt h = some d := by
  rw [lookUp_eq_ok, documentAt, Option.bind_eq_some_iff]

/-- Looking up an object that has a document is looking up the document. -/
theorem lookUp_asDocument_of {α : Type} {view : Object → Option α} (document : α → Document)
    (hview : ∀ o a, view o = some a → asDocument o = some (document a)) {a : α}
    (hl : s.lookUp view name = .ok (h, a)) : s.lookUp asDocument name = .ok (h, document a) := by
  obtain ⟨hf, o, ho, hv⟩ := lookUp_eq_ok.1 hl
  exact lookUp_eq_ok.2 ⟨hf, o, ho, hview o a hv⟩

theorem asDocument_of_asCursor (o : Object) (c : Cursor) (hc : asCursor o = some c) :
    asDocument o = some c.document := by
  cases o <;> cases hc
  rfl

theorem asDocument_of_asCapture (o : Object) (c : Capture) (hc : asCapture o = some c) :
    asDocument o = some c.document := by
  cases o <;> cases hc
  rfl

theorem asDocument_of_asReplay (o : Object) (r : Replay) (hr : asReplay o = some r) :
    asDocument o = some r.capture.document := by
  cases o <;> cases hr
  rfl

/-- A step that places a cursor places it in the document of the object that it names. -/
theorem Places.lookUp_donor {i : Int} (hp : Places s order d i) :
    ∃ name h, donor order = some name ∧ s.lookUp asDocument name = .ok (h, d) := by
  cases hp with
  | cursor hl => exact ⟨_, _, rfl, hl⟩
  | clone hl => exact ⟨_, _, rfl, lookUp_asDocument_of _ asDocument_of_asCursor hl⟩
  | next hl | nextOrFinished hl =>
    exact ⟨_, _, rfl, lookUp_asDocument_of _ asDocument_of_asReplay hl⟩
  | cursorAt hl | cursorNamed hl =>
    exact ⟨_, _, rfl, lookUp_asDocument_of _ asDocument_of_asCapture hl⟩

theorem Places.readsText_eq_false {i : Int} (hp : Places s order d i) : readsText order = false := by
  cases hp <;> rfl

/-- What a step makes has a new document if the step reads a text, and otherwise that of the object
which the step names. Only scanners have none. -/
theorem Makes.document_cases (hm : Makes s order o) (hd : asDocument o = some d) :
    readsText order = true ∧ donor order = none ∧ d.serial = s.serials ∨
      readsText order = false ∧
        ∃ name h, donor order = some name ∧ s.lookUp asDocument name = .ok (h, d) := by
  cases hm with
  | document text =>
    cases hd
    exact Or.inl ⟨rfl, rfl, rfl⟩
  | capture _ hc | scan _ hc =>
    cases hd
    obtain ⟨-, t, -, -, rfl⟩ := Capture.ofRaw_eq_ok_iff.1 hc
    exact Or.inl ⟨rfl, rfl, rfl⟩
  | scanner => cases hd
  | assemble hl =>
    cases hd
    exact Or.inr ⟨rfl, _, _, rfl, hl⟩
  | replay hl =>
    cases hd
    exact Or.inr ⟨rfl, _, _, rfl, lookUp_asDocument_of _ asDocument_of_asCapture hl⟩
  | cursor hp ha =>
    cases hd
    obtain ⟨rfl, -⟩ := Cursor.at?_eq_ok ha
    exact Or.inr ⟨hp.readsText_eq_false, hp.lookUp_donor⟩

/-- A move keeps the document. -/
theorem Moves.asDocument_eq (hm : Moves s order h o) {q : Object} (hq : s.object? h = some q) :
    asDocument o = asDocument q := by
  cases hm with
  | advance hl _ =>
    cases hq.symm.trans (lookUp_asCursor.1 hl).2
    rfl
  | scanInteger hl =>
    cases hq.symm.trans (lookUp_asCursor.1 hl).2
    exact congrArg some (Cursor.skipWhile_document _ _)
  | next hl | nextOrFinished hl =>
    cases hq.symm.trans (lookUp_asReplay.1 hl).2
    exact congrArg (fun c => some c.document) (Replay.take_capture _ _)
  | drain hl =>
    cases hq.symm.trans (lookUp_asReplay.1 hl).2
    rfl

theorem documentAt_step (hh : h < s.objects.size) (order : Step) (name : Option Text) :
    (s.step order name).1.documentAt h = s.documentAt h := by
  have hq : s.object? h = some s.objects[h] := Array.getElem?_eq_getElem hh
  obtain hs | ⟨o, hm, ho⟩ := (extends_step s order name).old h hh
  · rw [documentAt, documentAt, hs]
  · rw [documentAt, documentAt, ho, hq, Option.bind_some, Option.bind_some, hm.asDocument_eq hq]

/-- An object keeps its document. -/
theorem documentAt_run (hh : h < s.objects.size) (orders : List (Step × Option Text)) :
    (s.run orders).documentAt h = s.documentAt h := by
  induction orders generalizing s with
  | nil => rfl
  | cons order rest ih =>
    rw [run_cons, ih (Nat.lt_of_lt_of_le hh (size_le_step s order.1 order.2)), documentAt_step hh]

theorem lt_of_documentAt (hd : s.documentAt h = some d) : h < s.objects.size := by
  obtain ⟨o, ho, -⟩ := Option.bind_eq_some_iff.1 hd
  exact lt_of_object? ho

/-! ## Serial numbers -/

/-- A step that makes an object out of a text uses up one serial number; no other step uses any. -/
def Counts (s : Session) (order : Step) (t : Session) : Prop :=
  t.serials = s.serials ∧ (readsText order = true → t.objects.size = s.objects.size) ∨
    t.serials = s.serials + 1

namespace Counts

variable {t : Session}

theorem refl (s : Session) (order : Step) : Counts s order s := Or.inl ⟨rfl, fun _ => rfl⟩

theorem of_serials (ht : t.serials = s.serials) (hr : readsText order = false) :
    Counts s order t :=
  Or.inl ⟨ht, fun htrue => absurd (hr.symm.trans htrue) (by decide)⟩

theorem attempt {α : Type} {a : Except Fault α} {go : α → Effect} (ht : Counts s order t)
    (hgo : ∀ x, Counts s order (go x).1) : Counts s order (t.attempt a go).1 := by
  cases a with
  | error f => exact ht
  | ok x => exact hgo x

theorem createCapture (s : Session) (order : Step) (rules : Rules) (raw : Text) :
    Counts s order (s.createCapture rules raw).1 :=
  (refl s order).attempt fun _ => Or.inr rfl

theorem replayed {α : Type} (r : Replay × Except Fault α) {go : Session → α → Effect}
    (hr : readsText order = false) (hgo : ∀ t x, (go t x).1.serials = t.serials) :
    Counts s order (s.replayed h r go).1 := by
  have hput : Counts s order (s.put h (.replay r.1)) := of_serials rfl hr
  exact hput.attempt fun x => of_serials (hgo _ x) hr

end Counts

theorem counts_perform (s : Session) (order : Step) : Counts s order (s.perform order).1 := by
  have same := Counts.refl s order
  cases order with
  | document text => exact Or.inr rfl
  | capture raw draft => exact same.attempt fun _ => .createCapture s _ _ _
  | scan name raw => exact same.attempt fun _ => .createCapture s _ _ _
  | cursor | clone | cursorAt | cursorNamed =>
    exact same.attempt fun _ => same.attempt fun _ => .of_serials rfl rfl
  | advance => exact same.attempt fun _ => same.attempt fun _ => .of_serials rfl rfl
  | scanInteger | scanner | assemble | replay => exact same.attempt fun _ => .of_serials rfl rfl
  | next | nextOrFinished | drain =>
    exact same.attempt fun (_, _) => .replayed _ rfl fun _ _ => rfl
  | state | current | peek | line | debug | cursors | sameReplay =>
    exact same.attempt fun _ => same
  | takeUntil | check | captureCheck | sameDocument | sameObject =>
    exact same.attempt fun _ => same.attempt fun _ => same

/-- Giving a name uses no serial number. -/
theorem serials_step (s : Session) (order : Step) (name : Option Text) :
    (s.step order name).1.serials = (s.perform order).1.serials := by
  unfold step
  split
  · rename_i next reply h heq
    rw [heq]
    cases name <;> cases h <;> rfl
  · rename_i next f heq
    rw [heq]

theorem counts_step (s : Session) (order : Step) (name : Option Text) :
    Counts s order (s.step order name).1 := by
  have hcounts := counts_perform s order
  rwa [Counts, ← objects_step s order name, ← serials_step s order name] at hcounts

/-- The documents of a session have serial numbers below the next one. -/
def Numbered (s : Session) : Prop := ∀ h d, s.documentAt h = some d → d.serial < s.serials

theorem numbered_empty : Numbered empty := by
  intro h d hd
  simp [documentAt, object?, empty] at hd

theorem numbered_step (hs : Numbered s) (order : Step) (name : Option Text) :
    Numbered (s.step order name).1 := by
  intro h d hd
  have hcounts := counts_step s order name
  by_cases hh : h < s.objects.size
  · rw [documentAt_step hh] at hd
    have := hs h d hd
    unfold Counts at hcounts
    omega
  · obtain ⟨o, ho, hview⟩ := Option.bind_eq_some_iff.1 hd
    obtain ⟨rfl, hm⟩ := (extends_step s order name).new h o (Nat.not_lt.1 hh) ho
    obtain ⟨hr, -, hserial⟩ | ⟨-, name', p, -, hl⟩ := hm.document_cases hview
    · obtain ⟨-, hsize⟩ | hnext := hcounts
      · exact absurd (lt_of_object? ho) (by rw [hsize hr]; exact Nat.lt_irrefl _)
      · omega
    · have := hs p d (lookUp_asDocument.1 hl).2
      unfold Counts at hcounts
      omega

theorem numbered_run (hs : Numbered s) (orders : List (Step × Option Text)) :
    Numbered (s.run orders) := by
  induction orders generalizing s with
  | nil => exact hs
  | cons order rest ih => exact ih (numbered_step hs order.1 order.2)

/-! ## Descent and documents -/

theorem exists_madeBy (hh : h < (empty.run orders).objects.size) :
    ∃ before order, MadeBy orders h before order := by
  obtain hlt | ⟨before, order, name, after, o, horders, hsize, -, ho⟩ := old_or_made hh
  · exact absurd hlt (Nat.not_lt_zero h)
  · refine ⟨before, order, ⟨name, after, horders⟩, hsize, ?_⟩
    have hlt := lt_of_object? ho
    rwa [run_append, run_cons, run_nil, objects_step] at hlt

namespace MadeBy

/-- What an object was made with is still there behind the run. -/
theorem documentAt_eq (hm : MadeBy orders h before order) :
    ∃ o, Makes (empty.run before) order o ∧ (empty.run orders).documentAt h = asDocument o := by
  obtain ⟨⟨name, after, rfl⟩, rfl, hmade⟩ := hm
  rw [← objects_step _ order name] at hmade
  have ho := Array.getElem?_eq_getElem hmade
  obtain ⟨-, hmakes⟩ := (extends_step _ order name).new _ _ (Nat.le_refl _) ho
  refine ⟨_, hmakes, ?_⟩
  rw [run_append, run_cons, documentAt_run hmade, documentAt, object?, ho]
  rfl

/-- Objects that were there when another was made still have the documents that they had. -/
theorem documentAt_before (hm : MadeBy orders h before order) (hp : p < h) :
    (empty.run orders).documentAt p = (empty.run before).documentAt p := by
  obtain ⟨⟨name, after, rfl⟩, rfl, -⟩ := hm
  rw [run_append, documentAt_run hp]

end MadeBy

theorem MadeFrom.documentAt_eq (hm : MadeFrom orders h p)
    (hd : (empty.run orders).documentAt h = some d) : (empty.run orders).documentAt p = some d := by
  obtain ⟨before, order, name, hmade, hdonor, hf⟩ := hm
  obtain ⟨o, hmakes, ho⟩ := hmade.documentAt_eq
  obtain ⟨-, hnone, -⟩ | ⟨-, name', q, hdonor', hl⟩ := hmakes.document_cases (ho.symm.trans hd)
  · cases hnone.symm.trans hdonor
  · obtain rfl := Option.some.inj (hdonor'.symm.trans hdonor)
    obtain ⟨hq, hdq⟩ := lookUp_asDocument.1 hl
    obtain rfl := Option.some.inj (hq.symm.trans hf)
    rw [hmade.documentAt_before (hmade.handle ▸ lt_of_documentAt hdq), hdq]

/-- Descent keeps the document. -/
theorem Descends.documentAt_eq (hg : Descends orders h p)
    (hd : (empty.run orders).documentAt h = some d) : (empty.run orders).documentAt p = some d := by
  induction hg with
  | refl => exact hd
  | tail _ hm ih => exact hm.documentAt_eq ih

/-- An object with a document descends from one that was made together with it. The induction is on
handles: what an object was made from has a smaller one. -/
theorem exists_ownsDocument (hd : (empty.run orders).documentAt h = some d) :
    ∃ g, OwnsDocument orders g ∧ Descends orders h g := by
  induction h using Nat.strongRecOn with
  | ind h ih =>
    obtain ⟨before, order, hmade⟩ := exists_madeBy (lt_of_documentAt hd)
    obtain ⟨o, hmakes, ho⟩ := hmade.documentAt_eq
    obtain ⟨hr, -, -⟩ | ⟨-, name, p, hdonor, hl⟩ := hmakes.document_cases (ho.symm.trans hd)
    · exact ⟨h, ⟨before, order, hmade, hr⟩, .refl⟩
    · obtain ⟨hf, hdp⟩ := lookUp_asDocument.1 hl
      have hlt : p < h := hmade.handle ▸ lt_of_documentAt hdp
      have hfrom : MadeFrom orders h p := ⟨before, order, name, hmade, hdonor, hf⟩
      obtain ⟨g, hg, hdescends⟩ := ih p hlt (hfrom.documentAt_eq hd)
      exact ⟨g, hg, hdescends.head hfrom⟩

theorem OwnsDocument.serial_lt {g g' : Handle} {d d' : Document} (hg' : OwnsDocument orders g')
    (hlt : g < g') (hd : (empty.run orders).documentAt g = some d)
    (hd' : (empty.run orders).documentAt g' = some d') : d.serial < d'.serial := by
  obtain ⟨before, order, hmade, hr⟩ := hg'
  obtain ⟨o, hmakes, ho⟩ := hmade.documentAt_eq
  obtain ⟨-, -, hserial⟩ | ⟨hno, -⟩ := hmakes.document_cases (ho.symm.trans hd')
  · rw [hmade.documentAt_before hlt] at hd
    rw [hserial]
    exact numbered_run numbered_empty before g d hd
  · cases hr.symm.trans hno

/-- Two readings of texts give two documents. -/
theorem OwnsDocument.not_same {g g' : Handle} {d d' : Document} (hg : OwnsDocument orders g)
    (hg' : OwnsDocument orders g') (hne : g ≠ g')
    (hd : (empty.run orders).documentAt g = some d)
    (hd' : (empty.run orders).documentAt g' = some d') : ¬ d.Same d' := by
  intro hsame
  obtain hlt | hgt := Nat.lt_or_gt_of_ne hne
  · exact absurd hsame (Nat.ne_of_lt (hg'.serial_lt hlt hd hd'))
  · exact absurd hsame (Nat.ne_of_gt (hg.serial_lt hgt hd' hd))

/-- An object with a document descends from one reading of a text, and from no other. -/
theorem existsUnique_ownsDocument (hd : (empty.run orders).documentAt h = some d) :
    ∃! g, OwnsDocument orders g ∧ Descends orders h g := by
  obtain ⟨g, hg, hdescends⟩ := exists_ownsDocument hd
  refine ⟨g, ⟨hg, hdescends⟩, fun g' ⟨hg', hdescends'⟩ => Decidable.byContradiction fun hne => ?_⟩
  exact hg'.not_same hg hne (hdescends'.documentAt_eq hd) (hdescends.documentAt_eq hd) rfl

/-! ## Slices -/

variable {a b : Cursor}

theorem documentAt_cursor {c : Cursor} (hc : s.object? h = some (.cursor c)) :
    s.documentAt h = some c.document := by
  rw [documentAt, hc]
  rfl

/-- Cursors that descend from one object are in one document. -/
theorem Descends.document_eq {g : Handle} (ha : (empty.run orders).object? h = some (.cursor a))
    (hb : (empty.run orders).object? k = some (.cursor b)) (hg : Descends orders h g)
    (hg' : Descends orders k g) : a.document = b.document := by
  have hda := hg.documentAt_eq (documentAt_cursor ha)
  have hdb := hg'.documentAt_eq (documentAt_cursor hb)
  exact Option.some.inj (hda.symm.trans hdb)

theorem step_takeUntil {first second : Text} (hf : s.lookUp asCursor first = .ok (h, a))
    (hs : s.lookUp asCursor second = .ok (k, b)) (name : Option Text) :
    s.step (.takeUntil first second) name = (s, (a.takeUntil b).map .text) := by
  simp only [step, perform, hf, hs, attempt, answer]
  cases a.takeUntil b with
  | error f => rfl
  | ok t => cases name <;> rfl

/-- **Slices.** Every cursor of a session descends from just one reading of a text. Cursors from two
readings bound no slice, whatever their texts and indices. Cursors that descend from one object,
such as one capture, bound the text between them if they are in order; such slices can be put
together, and asking for them moves nothing. -/
theorem takeUntil_eq (ha : (empty.run orders).object? h = some (.cursor a))
    (hb : (empty.run orders).object? k = some (.cursor b)) :
    ((∃! g, OwnsDocument orders g ∧ Descends orders h g) ∧
      ∃! g, OwnsDocument orders g ∧ Descends orders k g) ∧
    (∀ g g', OwnsDocument orders g → OwnsDocument orders g' → Descends orders h g →
      Descends orders k g' → g ≠ g' → a.takeUntil b = .error .crossDocument) ∧
    (∀ g, Descends orders h g → Descends orders k g → a.takeUntil b =
      if b.index < a.index then .error (.cursorOrder a.index b.index)
      else .ok ((a.document.text.drop a.index).take (b.index - a.index))) ∧
    (∀ g l c, (empty.run orders).object? l = some (.cursor c) → Descends orders h g →
      Descends orders k g → Descends orders l g → a.index ≤ b.index → b.index ≤ c.index →
      ∃ t u, a.takeUntil b = .ok t ∧ b.takeUntil c = .ok u ∧ a.takeUntil c = .ok (t ++ u)) ∧
    ∀ first second, (empty.run orders).find? first = some h →
      (empty.run orders).find? second = some k → ∀ name,
      (empty.run orders).step (.takeUntil first second) name =
        (empty.run orders, (a.takeUntil b).map .text) := by
  have hda := documentAt_cursor ha
  have hdb := documentAt_cursor hb
  refine ⟨⟨existsUnique_ownsDocument hda, existsUnique_ownsDocument hdb⟩, ?_, ?_, ?_, ?_⟩
  · intro g g' hg hg' hdescends hdescends' hne
    have hsame := hg.not_same hg' hne (hdescends.documentAt_eq hda) (hdescends'.documentAt_eq hdb)
    rw [Cursor.takeUntil, if_pos hsame]
  · intro g hg hg'
    have hsame : a.document.Same b.document := congrArg Document.serial (hg.document_eq ha hb hg')
    rw [Cursor.takeUntil, if_neg (not_not_intro hsame), Document.slice_eq]
  · intro g l c hc hg hg' hg'' hab hbc
    exact Cursor.takeUntil_append (hg.document_eq ha hb hg') (hg'.document_eq hb hc hg'') hab hbc
  · intro first second hf hs name
    exact step_takeUntil (lookUp_asCursor.2 ⟨hf, ha⟩) (lookUp_asCursor.2 ⟨hs, hb⟩) name

/-- One text captured twice: a cursor of the first capture with a copy one code point further on, and a
cursor of the second capture at the index of the first cursor. -/
def twinCaptures : List (Step × Option Text) :=
  [(.capture "🌵()ab".toList Rules.standard.draft, some "r".toList),
    (.capture "🌵()ab".toList Rules.standard.draft, some "q".toList),
    (.replay "r".toList, some "i".toList), (.next "i".toList, some "a".toList),
    (.cursorAt "q".toList 0, none), (.clone "a".toList, some "b".toList),
    (.advance "b".toList 1, none)]

theorem takeUntil_twinCaptures :
    ∃ a b c, (empty.run twinCaptures).object? 3 = some (.cursor a) ∧
      (empty.run twinCaptures).object? 5 = some (.cursor b) ∧
      (empty.run twinCaptures).object? 4 = some (.cursor c) ∧
      a.index = c.index ∧ a.document.text = c.document.text ∧
      a.takeUntil c = .error .crossDocument ∧ a.takeUntil b = .ok "a".toList ∧
      b.takeUntil a = .error (.cursorOrder 1 0) := by
  have ha : (empty.run twinCaptures).object? 3 =
      some (.cursor ⟨.ofText 0 "ab".toList, 0, by decide⟩) := by rfl
  have hb : (empty.run twinCaptures).object? 5 =
      some (.cursor ⟨.ofText 0 "ab".toList, 1, by decide⟩) := by rfl
  have hc : (empty.run twinCaptures).object? 4 =
      some (.cursor ⟨.ofText 1 "ab".toList, 0, by decide⟩) := by rfl
  have hfirst : OwnsDocument twinCaptures 0 :=
    ⟨twinCaptures.take 0, _, ⟨⟨_, _, rfl⟩, rfl, by decide⟩, rfl⟩
  have hsecond : OwnsDocument twinCaptures 1 :=
    ⟨twinCaptures.take 1, _, ⟨⟨_, _, rfl⟩, rfl, by decide⟩, rfl⟩
  have hreplay : MadeFrom twinCaptures 2 0 :=
    ⟨twinCaptures.take 2, _, _, ⟨⟨_, _, rfl⟩, rfl, by decide⟩, rfl, rfl⟩
  have hnext : MadeFrom twinCaptures 3 2 :=
    ⟨twinCaptures.take 3, _, _, ⟨⟨_, _, rfl⟩, rfl, by decide⟩, rfl, rfl⟩
  have hcursorAt : MadeFrom twinCaptures 4 1 :=
    ⟨twinCaptures.take 4, _, _, ⟨⟨_, _, rfl⟩, rfl, by decide⟩, rfl, rfl⟩
  have hclone : MadeFrom twinCaptures 5 3 :=
    ⟨twinCaptures.take 5, _, _, ⟨⟨_, _, rfl⟩, rfl, by decide⟩, rfl, rfl⟩
  refine ⟨_, _, _, ha, hb, hc, rfl, rfl, ?_, ?_, ?_⟩
  · exact (takeUntil_eq ha hc).2.1 0 1 hfirst hsecond (.head hnext (.single hreplay))
      (.single hcursorAt) (by decide)
  · exact (takeUntil_eq ha hb).2.2.1 3 .refl (.single hclone)
  · exact (takeUntil_eq hb ha).2.2.1 3 (.single hclone) .refl

end Session

end MarkedText
