import MarkedText.Proofs.Report.OneLine
import MarkedText.Proofs.Report.RoundTrip
import MarkedText.Proofs.Text.Blocks

/-!
# Several reports

Reports that are written one after the other with an empty row between come apart again at the empty
rows. For that no report may have an empty row of its own. The JSON form never has one, since it is a
single row that is not empty, whatever its texts hold. The short form has none if its message is on
one line, and the block if its message and its hint are; its snippet may have any rows, which are set
in and so are not empty.

* `Unbroken`: what a form asks of a report.
* `solid_block`, `solid_oneLine`, `solid_json`: no form has an empty row.
* `splitBlocks_writeAll`: the main result.
-/

namespace MarkedText.Report

/-- The texts that a form takes over as they are hold no line feed. -/
def Unbroken (r : Report) : Form → Prop
  | .block => '\n' ∉ r.message ∧ ∀ hint ∈ r.hint, '\n' ∉ hint
  | .oneLine => '\n' ∉ r.message
  | .json => True

variable {r : Report}

theorem solid_block (paint : Bool) (h : r.Unbroken .block) : Text.Solid (r.block paint) := by
  unfold Text.Solid
  rw [splitLines_block paint h.1 h.2]
  exact fun row hrow => (plain_of_mem_blockRows h.1 h.2 hrow).1

theorem solid_oneLine (h : r.Unbroken .oneLine) : Text.Solid r.oneLine := by
  apply Text.solid_of_notMem
  · unfold oneLine
    simp only [List.append_assoc]
    exact List.append_ne_nil_of_right_ne_nil _ (List.cons_ne_nil _ _)
  · exact mt r.newline_mem_oneLine.1 h

/-- A line feed is a control, and none of these is left in a record. -/
theorem solid_json (r : Report) : Text.Solid r.json := by
  apply Text.solid_of_notMem
  · exact List.cons_ne_nil _ _
  · intro h
    have := r.record.control_notMem_json '\n' h
    exact absurd this (by decide)

theorem solid_write {form : Form} (paint : Bool) (h : r.Unbroken form) :
    Text.Solid (r.write form paint) := by
  cases form with
  | block => exact solid_block paint h
  | oneLine => exact solid_oneLine h
  | json => exact solid_json r

/-- **Several reports.** Cut at pairs of line feeds, reports written one after the other in any form
come apart into the written reports, in order. -/
theorem splitBlocks_writeAll (form : Form) (paint : Bool) {rs : List Report} (hne : rs ≠ [])
    (h : ∀ r ∈ rs, r.Unbroken form) :
    Text.splitBlocks (writeAll form paint rs) = rs.map (write form paint) := by
  have hsolid : ∀ t ∈ rs.map (write form paint), Text.Solid t := by
    intro t ht
    obtain ⟨r, hr, rfl⟩ := List.mem_map.1 ht
    exact solid_write paint (h r hr)
  have hmap : rs.map (write form paint) ≠ [] := by simpa using hne
  exact Text.splitBlocks_intercalate hmap hsolid

/-- A snippet with an empty row inside and one at its end, and a report with nothing but a code. -/
def emptyRows : List Report :=
  [⟨.unterminated, "m".toList, none, some [], some "a\n\nb\n".toList, warningSeverity⟩,
    plain .notFound []]

theorem splitBlocks_emptyRows :
    emptyRows ≠ [] ∧ (∀ r ∈ emptyRows, r.Unbroken .block) ∧
      writeAll .block false emptyRows =
        "warning[MARKER_UNTERMINATED]: m\n  a\n  \n  b\n  \n\nerror[MARKER_NOT_FOUND]: ".toList ∧
      Text.splitBlocks (writeAll .block false emptyRows) =
        ["warning[MARKER_UNTERMINATED]: m\n  a\n  \n  b\n  ".toList,
          "error[MARKER_NOT_FOUND]: ".toList] := by
  have hne : emptyRows ≠ [] := List.cons_ne_nil _ _
  have h : ∀ r ∈ emptyRows, r.Unbroken .block := by
    simp [emptyRows, Unbroken, plain]
  have hsplit := splitBlocks_writeAll .block false hne h
  refine ⟨hne, h, by decide, ?_⟩
  rw [hsplit]
  decide

end MarkedText.Report
