import MarkedText.Capture.Basic
import MarkedText.Capture.Replay
import MarkedText.Check.Compare
import MarkedText.Check.Fixture
import MarkedText.Check.Integer
import MarkedText.Check.LineBreak
import MarkedText.Cursor
import MarkedText.Document.Basic
import MarkedText.Document.LineTable
import MarkedText.Document.Loc
import MarkedText.Document.Snippet
import MarkedText.Fault
import MarkedText.Marker.Basic
import MarkedText.Marker.Delimiters
import MarkedText.Marker.Report
import MarkedText.Marker.Rules
import MarkedText.Marker.Scan
import MarkedText.Marker.Template
import MarkedText.Report.Basic
import MarkedText.Report.Code
import MarkedText.Report.JsonScan
import MarkedText.Report.LookUp
import MarkedText.Report.Record
import MarkedText.Report.Span
import MarkedText.Report.Written
import MarkedText.Session.Basic
import MarkedText.Session.Step
import MarkedText.Text.Basic
import MarkedText.Text.Blank
import MarkedText.Text.Digit
import MarkedText.Text.Numeral
import MarkedText.Text.Printable
import MarkedText.Text.Quoted
import MarkedText.Text.Ranges
import MarkedText.Text.Unquoted
import MarkedText.Value
import MarkedText.Proofs.Document.Lines
import MarkedText.Proofs.Document.Location
import MarkedText.Proofs.Document.Offsets
import MarkedText.Proofs.Document.Snippet
import MarkedText.Proofs.Marker.Diagnosis
import MarkedText.Proofs.Marker.Reading
import MarkedText.Proofs.Marker.Rejection
import MarkedText.Proofs.Marker.RoundTrip
import MarkedText.Proofs.Marker.Scanning
import MarkedText.Proofs.Marker.Template
import MarkedText.Proofs.Report.Block
import MarkedText.Proofs.Text.Rows
import MarkedText.Proofs.Marker.Concatenation
import MarkedText.Proofs.Marker.Locality
import MarkedText.Proofs.Marker.Lines
import MarkedText.Proofs.Session.Cursors
import MarkedText.Proofs.Document.Layout
import MarkedText.Proofs.Session.Replays
import MarkedText.Proofs.Session.Descent
import MarkedText.Proofs.Report.OneLine
import MarkedText.Proofs.Report.RoundTrip
import MarkedText.Proofs.Text.Numeral
import MarkedText.Proofs.Check.Integers
import MarkedText.Proofs.Check.Places
import MarkedText.Proofs.Document.Extraction
import MarkedText.Proofs.Check.LineBreaks
import MarkedText.Proofs.Check.Snapshots
import MarkedText.Proofs.Check.IntegerScan
import MarkedText.Proofs.Capture.Calls
import MarkedText.Proofs.Capture.LookUp
import MarkedText.Proofs.Text.Blocks
import MarkedText.Proofs.Report.Several
import MarkedText.Proofs.Check.Comparisons
import MarkedText.Proofs.Session.Lookahead
import MarkedText.Proofs.Text.Unquoted
import MarkedText.Proofs.Capture.Display
