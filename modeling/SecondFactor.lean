import SecondFactor.Binary64
import SecondFactor.Client
import SecondFactor.Client.Operations
import SecondFactor.Client.Poller
import SecondFactor.CommandLine.Invocation
import SecondFactor.CommandLine.Run
import SecondFactor.Decimal
import SecondFactor.Fault
import SecondFactor.Flow
import SecondFactor.Json
import SecondFactor.Json.Reader
import SecondFactor.Json.Writer
import SecondFactor.Log.Event
import SecondFactor.Log.Level
import SecondFactor.Log.Output
import SecondFactor.Log.Template
import SecondFactor.Main
import SecondFactor.Page
import SecondFactor.Passcode
import SecondFactor.Proofs.Client.Calls
import SecondFactor.Proofs.Client.Faults
import SecondFactor.Proofs.Client.Login
import SecondFactor.Proofs.Client.Logins
import SecondFactor.Proofs.Client.Operation
import SecondFactor.Proofs.Client.Polling
import SecondFactor.Proofs.Client.Registry
import SecondFactor.Proofs.Client.Secrecy
import SecondFactor.Proofs.Client.Stopping
import SecondFactor.Proofs.Client.Traffic
import SecondFactor.Proofs.Client.Twins
import SecondFactor.Proofs.CommandLine.Login
import SecondFactor.Proofs.Decimal
import SecondFactor.Proofs.Flow.Acceptance
import SecondFactor.Proofs.Flow.Counting
import SecondFactor.Proofs.Flow.Diagnostics
import SecondFactor.Proofs.Flow.Endings
import SecondFactor.Proofs.Flow.Enrollment
import SecondFactor.Proofs.Flow.Freshness
import SecondFactor.Proofs.Flow.Hosts
import SecondFactor.Proofs.Flow.NoteEffects
import SecondFactor.Proofs.Flow.Openings
import SecondFactor.Proofs.Flow.Pages
import SecondFactor.Proofs.Flow.Secrecy
import SecondFactor.Proofs.Flow.ServerErrors
import SecondFactor.Proofs.Flow.Sessions
import SecondFactor.Proofs.Flow.Steps
import SecondFactor.Proofs.Flow.Submissions
import SecondFactor.Proofs.Flow.Twins
import SecondFactor.Proofs.Flow.Waiting
import SecondFactor.Proofs.Json.Outermost
import SecondFactor.Proofs.Page.Encoding
import SecondFactor.Proofs.Server.Affirmation
import SecondFactor.Proofs.Server.Challenges
import SecondFactor.Proofs.Session
import SecondFactor.Proofs.Settings.Caching
import SecondFactor.Proofs.Settings.Fields
import SecondFactor.Proofs.Settings.Hosts
import SecondFactor.Proofs.Settings.ListTexts
import SecondFactor.Proofs.Settings.Schedules
import SecondFactor.Proofs.Settings.Sources
import SecondFactor.Proofs.Terminal.Answers
import SecondFactor.Proofs.Terminal.Endings
import SecondFactor.Proofs.Terminal.Pages
import SecondFactor.Proofs.Terminal.Rounds
import SecondFactor.Proofs.Terminal.Waits
import SecondFactor.Proofs.Text.Trimming
import SecondFactor.Schedule
import SecondFactor.Server.Message
import SecondFactor.Server.Response
import SecondFactor.Session
import SecondFactor.Settings
import SecondFactor.Settings.Coercion
import SecondFactor.Settings.Environment
import SecondFactor.Settings.Field
import SecondFactor.Settings.Source
import SecondFactor.Terminal
import SecondFactor.Text
import SecondFactor.Text.CodePoint
import SecondFactor.Text.Encoding
import SecondFactor.Text.Quoted
