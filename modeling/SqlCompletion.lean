import SqlCompletion.Text.Basic
import SqlCompletion.Text.Alphabetic
import SqlCompletion.Text.Numeric
import SqlCompletion.Text.Case
import SqlCompletion.Text.Width
import SqlCompletion.Completion
import SqlCompletion.Json.Basic
import SqlCompletion.Json.Reader
import SqlCompletion.Json.Printer
import SqlCompletion.Wire
import SqlCompletion.Sql.Parser
import SqlCompletion.Report
import SqlCompletion.Command.Arguments
import SqlCompletion.Command.Run
import SqlCompletion.Command.Directory
import SqlCompletion.Main
import SqlCompletion.Proofs.Place
import SqlCompletion.Proofs.Offsets
import SqlCompletion.Proofs.Truncation
import SqlCompletion.Proofs.Descent
import SqlCompletion.Proofs.Reentry
import SqlCompletion.Proofs.Origin
import SqlCompletion.Proofs.TypedWord
import SqlCompletion.Proofs.ScanProgress
import SqlCompletion.Proofs.Lexing
import SqlCompletion.Proofs.FromScan
import SqlCompletion.Proofs.ScanExtent
import SqlCompletion.Proofs.ScanShift
import SqlCompletion.Proofs.Enclosed
import SqlCompletion.Proofs.Outcome
import SqlCompletion.Proofs.WrittenClause
import SqlCompletion.Proofs.JoinedGroups
import SqlCompletion.Proofs.Spelling
import SqlCompletion.Proofs.Unfinished
import SqlCompletion.Proofs.LaterStatement
import SqlCompletion.Proofs.Parts
import SqlCompletion.Proofs.SelectList
import SqlCompletion.Proofs.JoinCondition
import SqlCompletion.Proofs.JsonText
import SqlCompletion.Proofs.WireForm
import SqlCompletion.Proofs.ErrorPlace
import SqlCompletion.Proofs.CommandAnswer
import SqlCompletion.Proofs.EntryPlaces
import SqlCompletion.Sql.Scanner
import SqlCompletion.Proofs.CheckedScan
import SqlCompletion.Proofs.ScopedColumns
import SqlCompletion.Proofs.ClauseEnd
import SqlCompletion.Proofs.SettledEntries
import SqlCompletion.Proofs.TypedReference
import SqlCompletion.Proofs.PastTheEnd
import SqlCompletion.Proofs.MentionedPlace
import SqlCompletion.Proofs.ExpectedFound
import SqlCompletion.Proofs.EnteredSubquery
import SqlCompletion.Proofs.OpenQuote
import SqlCompletion.Proofs.InsertColumns
import SqlCompletion.Proofs.AssignmentTarget
import SqlCompletion.Proofs.FoundColumns
import SqlCompletion.Proofs.ExpectedKeywords
