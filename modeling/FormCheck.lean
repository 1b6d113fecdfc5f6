import FormCheck.BuiltIn
import FormCheck.Clause
import FormCheck.CommandLine.Answer
import FormCheck.CommandLine.Page
import FormCheck.CommandLine.Request
import FormCheck.CommandLine.Word
import FormCheck.Control
import FormCheck.Expression
import FormCheck.Failure
import FormCheck.Folder
import FormCheck.Form
import FormCheck.Host
import FormCheck.Host.Plain
import FormCheck.Journal
import FormCheck.Journal.Writer
import FormCheck.JsonDocument
import FormCheck.JsonDocument.Reader
import FormCheck.Mailbox
import FormCheck.Main
import FormCheck.Message
import FormCheck.Message.Stock
import FormCheck.Mistake
import FormCheck.Notice
import FormCheck.Number.Binary64
import FormCheck.Number.Numeral
import FormCheck.Number.Shortest
import FormCheck.Number.Written
import FormCheck.Predicate
import FormCheck.Predicate.Stock
import FormCheck.Registry
import FormCheck.Report
import FormCheck.RuleSheet
import FormCheck.RulesFile
import FormCheck.Screens
import FormCheck.Session
import FormCheck.Table
import FormCheck.Template
import FormCheck.Template.Fault
import FormCheck.Template.LaidOut
import FormCheck.Template.Layout
import FormCheck.Text.Blank
import FormCheck.Text.Case
import FormCheck.Text.DecimalDigit
import FormCheck.Text.Printable
import FormCheck.Text.Quoted
import FormCheck.Text.Span
import FormCheck.Text.Split
import FormCheck.Text.Utf8
import FormCheck.Traced
import FormCheck.Validation
import FormCheck.Value
import FormCheck.Value.Display
import FormCheck.Yaml.Base64
import FormCheck.Yaml.Cursor
import FormCheck.Yaml.Datum
import FormCheck.Yaml.Document
import FormCheck.Yaml.Fault
import FormCheck.Yaml.Moment
import FormCheck.Yaml.Node
import FormCheck.Yaml.Scalar
import FormCheck.Yaml.Tag
import FormCheck.Yaml.Token
import FormCheck.Yaml.Token.Lexer
import FormCheck.Yaml.Token.Mark
import FormCheck.Yaml.Token.Scalar
import FormCheck.Proofs.Outcomes
import FormCheck.Proofs.Judging
import FormCheck.Proofs.Message
import FormCheck.Proofs.WellFormed
import FormCheck.Proofs.RecordOrder
import FormCheck.Proofs.FieldByField
import FormCheck.Proofs.Text
import FormCheck.Proofs.RoundTrip
import FormCheck.Proofs.FormRun
import FormCheck.Proofs.Recorder
import FormCheck.Proofs.FormValidation
import FormCheck.Proofs.ControlByControl
import FormCheck.Proofs.Submission
import FormCheck.Proofs.RegistryHistory
import FormCheck.Proofs.SessionRun
import FormCheck.Proofs.LoadedForms
import FormCheck.Proofs.UnrelatedFields
import FormCheck.Proofs.Verdict
import FormCheck.Proofs.Storage
import FormCheck.Proofs.StoredRun
import FormCheck.Proofs.Isolation
import FormCheck.Proofs.Failures
import FormCheck.Proofs.ExitCodes
import FormCheck.Proofs.Segments
import FormCheck.Proofs.ShortCircuit
import FormCheck.Proofs.SheetRun
import FormCheck.Proofs.FailedActions
import FormCheck.Proofs.MailGrammar
import FormCheck.Proofs.Template
import FormCheck.Proofs.Defects
import FormCheck.Proofs.FirstFailure
import FormCheck.Proofs.Rendering
import FormCheck.Proofs.FileSections
import FormCheck.Proofs.ValueEquality
import FormCheck.Proofs.EqualFields
import FormCheck.Proofs.WholeBounds
import FormCheck.Proofs.Channels
import FormCheck.Proofs.PassJournal
import FormCheck.Proofs.MirroredBounds
import FormCheck.Proofs.Defects
import FormCheck.Proofs.DomainLetters
import FormCheck.Proofs.OwnValidators
import FormCheck.Proofs.LabelsInMessages
