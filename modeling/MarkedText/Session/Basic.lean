import MarkedText.Check.Fixture

/-!
# Sessions

A session holds the objects that a test works with. An object is reached through a name; several
names may stand for one object, and then they see each other's moves. Every document that a session
makes gets a serial number of its own.

* `find?_bind_self`, `find?_bind_other`: what a name stands for after another has been bound.
* `object?_put_self`, `object?_put_other`, `put_self`: changing one object leaves the others alone.
* `object?_add_old`, `object?_add_new`: a new object does not touch the old ones.
-/

namespace MarkedText

/-- What a name may stand for. -/
inductive Object where
  | document (d : Document)
  | cursor (c : Cursor)
  | capture (c : Capture)
  | scanner (r : Rules)
  | replay (r : Replay)
  deriving DecidableEq

/-- The place of an object in a session; it stays the same as the object changes. -/
abbrev Handle := Nat

structure Session where
  objects : Array Object
  names : List (Text × Handle)
  serials : Nat
  deriving DecidableEq

namespace Session

/-- Nothing is named yet. -/
def empty : Session := ⟨#[], [], 0⟩

/-! ## Objects and names -/

def object? (s : Session) (h : Handle) : Option Object := s.objects[h]?

/-- The handle that a name stands for. -/
def find? (s : Session) (name : Text) : Option Handle :=
  (s.names.find? fun p => p.1 == name).map Prod.snd

/-- Lets a name stand for a handle from now on. -/
def bind (s : Session) (name : Text) (h : Handle) : Session :=
  { s with names := (name, h) :: s.names }

/-- A session with one more object; its handle is the old number of objects. -/
def add (s : Session) (o : Object) : Session := { s with objects := s.objects.push o }

/-- The session with another object at a handle. -/
def put (s : Session) (h : Handle) (o : Object) : Session :=
  { s with objects := s.objects.setIfInBounds h o }

/-- The session with one serial number used up. -/
def useSerial (s : Session) : Session := { s with serials := s.serials + 1 }

theorem find?_bind_self (s : Session) (name : Text) (h : Handle) :
    (s.bind name h).find? name = some h := by
  simp [find?, bind]

theorem find?_bind_other (s : Session) {name other : Text} (h : Handle) (hne : name ≠ other) :
    (s.bind name h).find? other = s.find? other := by
  simp [find?, bind, hne]

theorem lt_of_object? {s : Session} {h : Handle} {o : Object} (ho : s.object? h = some o) :
    h < s.objects.size :=
  (Array.getElem?_eq_some_iff.1 ho).1

theorem object?_put_self {s : Session} {h : Handle} {o : Object} (ho : s.object? h = some o)
    (p : Object) : (s.put h p).object? h = some p := by
  simp [object?, put, lt_of_object? ho]

theorem object?_put_other (s : Session) {h k : Handle} (p : Object) (hne : h ≠ k) :
    (s.put h p).object? k = s.object? k := by
  simp [object?, put, Array.getElem?_setIfInBounds_ne hne]

/-- Putting an object where it is changes nothing. -/
theorem put_self {s : Session} {h : Handle} {o : Object} (ho : s.object? h = some o) :
    s.put h o = s := by
  obtain ⟨hlt, ho⟩ := Array.getElem?_eq_some_iff.1 ho
  simp [put, Array.setIfInBounds, hlt, ← ho]

theorem object?_add_old {s : Session} {h : Handle} {o : Object} (ho : s.object? h = some o)
    (p : Object) : (s.add p).object? h = some o := by
  have hh := lt_of_object? ho
  simp only [object?, add, Array.getElem?_push_lt hh, ← Array.getElem?_eq_getElem hh]
  exact ho

theorem object?_add_new (s : Session) (p : Object) : (s.add p).object? s.objects.size = some p := by
  simp [object?, add]

/-! ## Typed look-up -/

/-- The handle of a name and what `view` sees of its object. -/
def lookUp {α : Type} (s : Session) (view : Object → Option α) (name : Text) :
    Except Fault (Handle × α) :=
  match s.find? name with
  | none => .error (.unbound name)
  | some h =>
    match (s.object? h).bind view with
    | none => .error (.unbound name)
    | some a => .ok (h, a)

def asCursor : Object → Option Cursor
  | .cursor c => some c
  | _ => none

def asCapture : Object → Option Capture
  | .capture c => some c
  | _ => none

def asScanner : Object → Option Rules
  | .scanner r => some r
  | _ => none

def asReplay : Object → Option Replay
  | .replay r => some r
  | _ => none

/-- A document, or the one under a cursor, a capture or a replay. -/
def asDocument : Object → Option Document
  | .document d => some d
  | .cursor c => some c.document
  | .capture c => some c.document
  | .replay r => some r.capture.document
  | .scanner _ => none

end Session

end MarkedText
