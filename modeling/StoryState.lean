import StoryState.Event
import StoryState.Files.Watcher
import StoryState.Http.Server
import StoryState.Lock.Session
import StoryState.Service.Backup
import StoryState.Task.Pool
import StoryState.Proofs.Entries
import StoryState.Proofs.Step
import StoryState.Proofs.Text.Digit
import StoryState.Proofs.Text.Segments
import StoryState.Proofs.Text.Pieces
import StoryState.Proofs.Text.Entity
import StoryState.Proofs.Number.Bits
import StoryState.Proofs.Number.Nearest
import StoryState.Proofs.Number.Decimal
import StoryState.Proofs.Json.Text
import StoryState.Proofs.Json.Number
import StoryState.Proofs.Json.Document
import StoryState.Proofs.Json.Breaks
import StoryState.Proofs.Value.Inherited
import StoryState.Proofs.Value.Tidy
import StoryState.Proofs.Value.Path
import StoryState.Proofs.State.Payload
import StoryState.Proofs.State.Edit
import StoryState.Proofs.State.Storable
import StoryState.Proofs.State.Expiry
import StoryState.Proofs.State.WellFormed
import StoryState.Proofs.Directive.Agenda
import StoryState.Proofs.Directive.Spelling
import StoryState.Proofs.Directive.Head
import StoryState.Proofs.Directive.WrittenChange
import StoryState.Proofs.Directive.WrittenRegistration
import StoryState.Proofs.Directive.Refusal
import StoryState.Proofs.Directive.Level
import StoryState.Proofs.Directive.Frame
import StoryState.Proofs.Directive.Hidden
import StoryState.Proofs.Directive.Change
import StoryState.Proofs.Directive.Registration
import StoryState.Proofs.Macro.Reading
import StoryState.Proofs.Macro.Evaluation
import StoryState.Proofs.Macro.Secrecy
import StoryState.Proofs.Macro.Reveal
import StoryState.Proofs.Macro.Nested
import StoryState.Proofs.Lock.Lines
import StoryState.Proofs.Task.Run
import StoryState.Proofs.Task.Protocol
import StoryState.Proofs.Task.Inside
import StoryState.Proofs.Task.Sequence
import StoryState.Proofs.Task.Sound
import StoryState.Proofs.Task.Orderly
import StoryState.Proofs.Task.Strokes
import StoryState.Proofs.Story.View
import StoryState.Proofs.Story.Local
import StoryState.Proofs.Story.Call
import StoryState.Proofs.Story.Serial
import StoryState.Proofs.Story.Short
import StoryState.Proofs.Story.Stored
import StoryState.Proofs.Story.Storing
import StoryState.Proofs.Story.Payload
import StoryState.Proofs.Story.Operation
import StoryState.Proofs.Story.Deed
import StoryState.Proofs.Story.Expiring
import StoryState.Proofs.Story.Failure
import StoryState.Proofs.Story.Alone
import StoryState.Proofs.Story.Chance
import StoryState.Proofs.Story.Once
import StoryState.Proofs.Service.Preview
import StoryState.Proofs.Story.Replacing
import StoryState.Proofs.Story.Lasting
import StoryState.Proofs.Story.Made
import StoryState.Proofs.Story.Writable
import StoryState.Proofs.Story.Kept
import StoryState.Proofs.Directive.Range
import StoryState.Proofs.Directive.Schema
import StoryState.Proofs.Directive.Uniform
import StoryState.Proofs.Directive.Returning
import StoryState.Proofs.Directive.Brief
import StoryState.Proofs.Directive.System
import StoryState.Proofs.Directive.Dotted
import StoryState.Proofs.Directive.Repeated
import StoryState.Proofs.Directive.Order
import StoryState.Proofs.Service.Standing
import StoryState.Proofs.Service.Errand
import StoryState.Proofs.Service.Reopening
import StoryState.Proofs.Service.Progress
import StoryState.Proofs.Service.Watching
import StoryState.Proofs.Service.Aside
import StoryState.Proofs.Service.Opening
import StoryState.Proofs.Service.Clock
import StoryState.Proofs.Service.BackupFiles
import StoryState.Proofs.Service.Backup
import StoryState.Proofs.Text.Blank
import StoryState.Proofs.Files.Path
import StoryState.Proofs.Files.Watcher
import StoryState.Proofs.Files.Directory
import StoryState.Proofs.Files.Contents
import StoryState.Proofs.Storage.Calls
import StoryState.Proofs.Storage.Directory
import StoryState.Proofs.Storage.Pattern
import StoryState.Proofs.Storage.Table
import StoryState.Proofs.Condition.Formula
import StoryState.Proofs.Condition.Respelling
import StoryState.Proofs.Condition.Tokens
import StoryState.Proofs.Condition.Parsing
import StoryState.Proofs.Condition.Meaning
import StoryState.Proofs.Condition.Dependence
import StoryState.Proofs.Macro.Checking
import StoryState.Proofs.Value.RoundTrip
import StoryState.Proofs.Macro.Feed
import StoryState.Proofs.History.Recent
import StoryState.Proofs.Story.Recovery
import StoryState.Proofs.Story.FirstAccess
import StoryState.Proofs.Story.Flushing
import StoryState.Proofs.Service.Retiring
import StoryState.Proofs.Directive.Renaming
import StoryState.Proofs.Directive.Occurs
import StoryState.Proofs.Directive.Extract
import StoryState.Proofs.Service.SystemVariables
import StoryState.Proofs.Service.Reconfiguring
import StoryState.Proofs.Task.Confined
import StoryState.Proofs.Story.Apart
import StoryState.Proofs.Story.Silent
import StoryState.Proofs.Story.NewRow
