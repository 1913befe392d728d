import MarkedText.Session.Basic

/-!
# Steps of a session

A step names the objects it works on. It answers with a reply or a fault; a step that makes or moves
an object can give it a name, which happens only when the step succeeds. Failed steps leave the
session as it was, with two exceptions: a scan leaves its cursor behind what it took, and a replay
counts a marker whether or not a cursor could be placed there.

* `perform`: what a step does, before names are given.
* `step`, `row`: a whole step with its name, and what is shown of it.
-/

namespace MarkedText

/-- What a session can be asked to do. Names of objects come first. -/
inductive Step where
  | document (text : Text)
  | cursor (document : Text) (index : Int)
  | clone (cursor : Text)
  | advance (cursor : Text) (count : Int)
  | state (cursor : Text)
  | current (cursor : Text)
  | peek (cursor : Text) (offset : Int)
  | takeUntil (cursor other : Text)
  | line (cursor : Text) (number : Int)
  | debug (cursor : Text) (context : Int)
  | scanInteger (cursor : Text) (test : DigitTest)
  | check (cursor name : Text) (draft : Rules.Draft) (actual expected : Value)
  | capture (raw : Text) (draft : Rules.Draft)
  | scanner (draft : Rules.Draft)
  | scan (scanner raw : Text)
  | assemble (document : Text) (markers : List Marker)
  | replay (capture : Text)
  | sameReplay (replay : Text)
  | next (replay : Text)
  | nextOrFinished (replay : Text)
  | drain (replay : Text)
  | cursors (capture : Text)
  | cursorAt (capture : Text) (index : Int)
  | cursorNamed (capture label : Text)
  | captureCheck (capture name : Text) (draft : Rules.Draft) (expected : Text)
  | sameDocument (a b : Text)
  | sameObject (a b : Text)

/-- What a step answers. -/
inductive Reply where
  | nothing
  | truth (b : Bool)
  | integer (n : Int)
  | text (t : Text)
  | line (t : Option Text)
  | codePoint (c : Option Char)
  | extent (size lines : Nat)
  | cursor (c : Cursor)
  | state (c : Cursor)
  | capture (c : Capture)
  | scanner (r : Rules)
  | cursors (cs : List Cursor)
  | indices (is : List Nat)
  deriving DecidableEq

/-- The session after a step, and its reply with the handle that a name may be given to. -/
abbrev Effect := Session × Except Fault (Reply × Option Handle)

namespace Session

/-- Goes on with a value, or fails and changes nothing. -/
def attempt {α : Type} (s : Session) (a : Except Fault α) (go : α → Effect) : Effect :=
  match a with
  | .ok a => go a
  | .error f => (s, .error f)

/-- Answers and changes nothing. -/
def answer (s : Session) (r : Except Fault Reply) : Effect := (s, r.map fun r => (r, none))

/-- Adds an object and answers. -/
def create (s : Session) (o : Object) (r : Reply) : Effect :=
  (s.add o, .ok (r, some s.objects.size))

/-- Changes an object and answers. -/
def change (s : Session) (h : Handle) (o : Object) (r : Reply) : Effect :=
  (s.put h o, .ok (r, some h))

/-- The rules of a draft, as part of a step. -/
def rulesOf (draft : Rules.Draft) : Except Fault Rules := draft.check.mapError .badRules

/-- A new cursor, if there is one. -/
def createCursor (s : Session) (c : Except Fault Cursor) : Effect :=
  s.attempt c fun c => s.create (.cursor c) (.cursor c)

/-- A new capture of a raw text. -/
def createCapture (s : Session) (rules : Rules) (raw : Text) : Effect :=
  s.attempt (Capture.ofRaw rules s.serials raw) fun c =>
    s.useSerial.create (.capture c) (.capture c)

/-- Stores a replay that has moved and goes on with what it gave. -/
def replayed {α : Type} (s : Session) (h : Handle) (r : Replay × Except Fault α)
    (go : Session → α → Effect) : Effect :=
  let moved := s.put h (.replay r.1)
  moved.attempt r.2 (go moved)

/-- What a step does. -/
def perform (s : Session) : Step → Effect
  | .document text =>
    let d := Document.ofText s.serials text
    s.useSerial.create (.document d) (.extent d.size d.lineCount)
  | .cursor document index =>
    s.attempt (s.lookUp asDocument document) fun (_, d) => s.createCursor (Cursor.at? d index)
  | .clone cursor =>
    s.attempt (s.lookUp asCursor cursor) fun (_, c) => s.createCursor (.ok c)
  | .advance cursor count =>
    s.attempt (s.lookUp asCursor cursor) fun (h, c) =>
      s.attempt (c.advance count) fun c => s.change h (.cursor c) (.cursor c)
  | .state cursor =>
    s.attempt (s.lookUp asCursor cursor) fun (_, c) => s.answer (.ok (.state c))
  | .current cursor =>
    s.attempt (s.lookUp asCursor cursor) fun (_, c) =>
      s.answer (c.current.map fun x => .codePoint (some x))
  | .peek cursor offset =>
    s.attempt (s.lookUp asCursor cursor) fun (_, c) => s.answer (.ok (.codePoint (c.peek offset)))
  | .takeUntil cursor other =>
    s.attempt (s.lookUp asCursor cursor) fun (_, c) =>
      s.attempt (s.lookUp asCursor other) fun (_, o) => s.answer ((c.takeUntil o).map .text)
  | .line cursor number =>
    s.attempt (s.lookUp asCursor cursor) fun (_, c) =>
      s.answer (.ok (.line (c.document.line? number)))
  | .debug cursor context =>
    s.attempt (s.lookUp asCursor cursor) fun (_, c) => s.answer ((c.debug context).map .text)
  | .scanInteger cursor test =>
    s.attempt (s.lookUp asCursor cursor) fun (h, c) =>
      let scan := c.scanInteger test.holds
      (s.put h (.cursor scan.1)).answer (scan.2.map .integer)
  | .check cursor name draft actual expected =>
    s.attempt (rulesOf draft) fun rules =>
      s.attempt (s.lookUp asCursor cursor) fun (_, c) =>
        s.answer (((⟨name, rules⟩ : Harness).check actual expected (some c)).map fun _ => .nothing)
  | .capture raw draft =>
    s.attempt (rulesOf draft) fun rules => s.createCapture rules raw
  | .scanner draft =>
    s.attempt (rulesOf draft) fun rules => s.create (.scanner rules) (.scanner rules)
  | .scan scanner raw =>
    s.attempt (s.lookUp asScanner scanner) fun (_, rules) => s.createCapture rules raw
  | .assemble document markers =>
    s.attempt (s.lookUp asDocument document) fun (_, d) =>
      s.create (.capture ⟨d, markers⟩) (.capture ⟨d, markers⟩)
  | .replay capture =>
    s.attempt (s.lookUp asCapture capture) fun (_, c) =>
      s.create (.replay (.ofCapture c)) .nothing
  | .sameReplay replay =>
    s.attempt (s.lookUp asReplay replay) fun (h, _) => (s, .ok (.nothing, some h))
  | .next replay =>
    s.attempt (s.lookUp asReplay replay) fun (h, r) =>
      s.replayed h r.next fun s c => s.create (.cursor c) (.cursor c)
  | .nextOrFinished replay =>
    s.attempt (s.lookUp asReplay replay) fun (h, r) =>
      s.replayed h r.nextOrFinished fun s c => s.create (.cursor c) (.cursor c)
  | .drain replay =>
    s.attempt (s.lookUp asReplay replay) fun (h, r) =>
      s.replayed h r.drain fun s cs => s.answer (.ok (.indices (cs.map Cursor.index)))
  | .cursors capture =>
    s.attempt (s.lookUp asCapture capture) fun (_, c) => s.answer (c.cursors.map .cursors)
  | .cursorAt capture index =>
    s.attempt (s.lookUp asCapture capture) fun (_, c) => s.createCursor (c.cursorAt index)
  | .cursorNamed capture label =>
    s.attempt (s.lookUp asCapture capture) fun (_, c) => s.createCursor (c.cursorNamed label)
  | .captureCheck capture name draft expected =>
    s.attempt (rulesOf draft) fun rules =>
      s.attempt (s.lookUp asCapture capture) fun (_, c) =>
        s.answer (((⟨name, rules⟩ : Harness).captureCheck c expected).map fun _ => .nothing)
  | .sameDocument a b =>
    s.attempt (s.lookUp asDocument a) fun (_, d) =>
      s.attempt (s.lookUp asDocument b) fun (_, e) => s.answer (.ok (.truth (decide (d.Same e))))
  | .sameObject a b =>
    s.attempt (s.lookUp some a) fun (h, _) =>
      s.attempt (s.lookUp some b) fun (k, _) => s.answer (.ok (.truth (h == k)))

/-! ## Whole steps -/

/-- Gives a name to the handle of a step that succeeded. -/
def named (s : Session) (name : Option Text) (h : Option Handle) : Session :=
  match name, h with
  | some name, some h => s.bind name h
  | _, _ => s

/-- Performs a step and gives a name to what it made or moved. -/
def step (s : Session) (order : Step) (name : Option Text) : Session × Except Fault Reply :=
  match s.perform order with
  | (next, .ok (reply, h)) => (next.named name h, .ok reply)
  | (next, .error f) => (next, .error f)

/-- The cursor that a step works on. -/
def cursorOf : Step → Option Text
  | .clone c | .advance c _ | .state c | .current c | .peek c _ | .takeUntil c _ | .line c _
  | .debug c _ | .scanInteger c _ | .check c _ _ _ _ => some c
  | _ => none

/-- The replay that a step works on. -/
def replayOf : Step → Option Text
  | .sameReplay r | .next r | .nextOrFinished r | .drain r => some r
  | _ => none

/-- The reply of a step, and where its cursor or replay stands behind it. -/
structure Row where
  reply : Except Fault Reply
  index : Option Nat
  progress : Option (Nat × Nat)

/-- What `view` sees of the object that a name stands for, if there is such a name. -/
def seen {α : Type} (s : Session) (view : Object → Option α) (name : Option Text) : Option α :=
  name.bind fun name => (s.lookUp view name).toOption.map Prod.snd

/-- What is shown of a step. -/
def row (s : Session) (order : Step) (name : Option Text) : Session × Row :=
  let after := s.step order name
  (after.1, {
    reply := after.2
    index := (after.1.seen asCursor (cursorOf order)).map Cursor.index
    progress := (after.1.seen asReplay (replayOf order)).map fun r => (r.position, r.remaining) })

/-- The rows of a list of steps from an empty session. -/
def rows (orders : List (Step × Option Text)) : List Row :=
  let after := orders.foldl (fun (s, shown) (order, name) =>
    let next := s.row order name
    (next.1, next.2 :: shown)) (empty, [])
  after.2.reverse

end Session

end MarkedText
