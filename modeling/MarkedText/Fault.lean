import MarkedText.Marker.Rules
import MarkedText.Report.Written
import MarkedText.Text.Numeral

/-!
# Faults

Every way in which an operation of this library fails, as a cause. Some causes carry a report; all
have a message, which for those is the unpainted block of the report. The kinds of fault form a
hierarchy that a handler can go by.

* `Fault.message`, `Fault.report?`: what is said about a fault.
* `message_of_report`: a fault with a report is described by its block.
* `Kind.lineage`: a kind and all kinds above it, nearest first.
* `library_mem_lineage_iff`: the faults with a report are those of this library's own kind.
-/

namespace MarkedText

/-- A failed comparison: both sides as shown, with words before and a place behind. -/
structure Mismatch where
  heading : Text
  expected : Text
  actual : Text
  place : Text
  deriving DecidableEq, Repr

def Mismatch.message (m : Mismatch) : Text :=
  m.heading ++ "expected ".toList ++ m.expected ++ ", got ".toList ++ m.actual ++ m.place

inductive Fault where
  | malformed (r : Report)
  | crossDocument
  | cursorOrder (start stop : Nat)
  | exhausted (count : Nat)
  | unknownMarker (key : Report.Key) (count : Nat)
  | badSpan (d : Report.Span.Defect)
  | badRules (d : Rules.Defect)
  | badNumeral (r : Numeral.Refusal)
  | lineOutside (line : Int) (count : Nat)
  | positionOutside (position : Int) (length : Nat)
  | indexOutside (index : Int) (length : Nat)
  | backward (count : Int)
  | negativeContext (rows : Int)
  | unknownForm (name : Text)
  | unknownCodeNumber (n : Int)
  | unknownCodeName (name : Text)
  | endOfText (position : Nat)
  | mismatch (m : Mismatch)
  | finished
  | unbound (name : Text)
  deriving DecidableEq, Repr

namespace Fault

/-- The report of a fault that has one. -/
def report? : Fault → Option Report
  | malformed r => some r
  | crossDocument => some .crossDocument
  | cursorOrder start stop => some (.cursorOrder start stop)
  | exhausted count => some (.exhausted count)
  | unknownMarker key count => some (.notFound key count)
  | _ => none

/-- The words for a fault without a report. -/
def wording : Fault → Text
  | badSpan d => d.message
  | badRules d => d.message
  | badNumeral r => r.message
  | lineOutside n count => "Line ".toList ++ Text.ofInt n ++
      " out of range (document has ".toList ++ Text.ofNat count ++ " lines)".toList
  | positionOutside p length => "Position ".toList ++ Text.ofInt p ++ " out of range 0..".toList ++
      Text.ofNat length
  | indexOutside i length => "Cursor index ".toList ++ Text.ofInt i ++ " out of range 0..".toList ++
      Text.ofNat length
  | backward n => "Cursor can only advance forward, got count=".toList ++ Text.ofInt n
  | negativeContext n => "context_lines must be >= 0, got ".toList ++ Text.ofInt n
  | unknownForm name => Text.quote name ++ " is not a valid OutputFormat".toList
  | unknownCodeNumber n => Text.ofInt n ++ " is not a valid DiagnosticCode".toList
  | unknownCodeName name => Text.quote name
  | endOfText p => (Report.unexpectedEnd p).message
  | mismatch m => m.message
  | unbound name => name
  | _ => []

/-- What is said about a fault. -/
def message (f : Fault) : Text :=
  match f.report? with
  | some r => r.block false
  | none => f.wording

theorem message_of_report {f : Fault} {r : Report} (h : f.report? = some r) :
    f.message = r.block false := by
  simp [message, h]

/-! ## Kinds -/

/-- The kinds of fault. `any`, `ordinary`, `library`, `contract` and `lookUp` stand for several of
the others. -/
inductive Kind where
  | any
  | ordinary
  | library
  | contract
  | malformed
  | crossDocument
  | cursorOrder
  | exhausted
  | unknownMarker
  | lookUp
  | unknownKey
  | badValue
  | endOfText
  | mismatch
  | finished
  | unbound
  deriving DecidableEq, Repr

def kind : Fault → Kind
  | malformed _ => .malformed
  | crossDocument => .crossDocument
  | cursorOrder _ _ => .cursorOrder
  | exhausted _ => .exhausted
  | unknownMarker _ _ => .unknownMarker
  | badSpan _ | badRules _ | badNumeral _ | lineOutside _ _ | positionOutside _ _
  | indexOutside _ _ | backward _ | negativeContext _ | unknownForm _ | unknownCodeNumber _ =>
    .badValue
  | unknownCodeName _ => .unknownKey
  | endOfText _ => .endOfText
  | mismatch _ => .mismatch
  | finished => .finished
  | unbound _ => .unbound

/-- The kind and the kinds above it, nearest first. A marker that is not found is both misuse of a
cursor and a key that is missing. -/
def Kind.lineage : Kind → List Kind
  | .any => [.any]
  | .ordinary => [.ordinary, .any]
  | .library => [.library, .ordinary, .any]
  | .contract => [.contract, .library, .ordinary, .any]
  | .malformed => [.malformed, .library, .ordinary, .any]
  | .crossDocument => [.crossDocument, .contract, .library, .ordinary, .any]
  | .cursorOrder => [.cursorOrder, .contract, .library, .ordinary, .any]
  | .exhausted => [.exhausted, .contract, .library, .ordinary, .any]
  | .unknownMarker =>
    [.unknownMarker, .contract, .library, .unknownKey, .lookUp, .ordinary, .any]
  | .lookUp => [.lookUp, .ordinary, .any]
  | .unknownKey => [.unknownKey, .lookUp, .ordinary, .any]
  | k => [k, .ordinary, .any]

theorem library_mem_lineage_iff (f : Fault) :
    Kind.library ∈ f.kind.lineage ↔ f.report?.isSome = true := by
  cases f <;> simp [kind, Kind.lineage, report?]

end Fault

end MarkedText
