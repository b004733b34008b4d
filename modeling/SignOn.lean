import SignOn.Answer
import SignOn.Assoc
import SignOn.Audit.Basic
import SignOn.Client.Basic
import SignOn.Client.Redirect
import SignOn.Client.Registry
import SignOn.Database.Basic
import SignOn.Database.Seed
import SignOn.Decision
import SignOn.Failure
import SignOn.Handoff
import SignOn.Http.Cookie
import SignOn.Http.Form
import SignOn.Http.Reply
import SignOn.Http.Request
import SignOn.Interception
import SignOn.Json.Atom
import SignOn.Json.AtomMap
import SignOn.Json.Basic
import SignOn.Json.Document
import SignOn.Json.Number
import SignOn.Json.Parser
import SignOn.Json.Printer
import SignOn.LoginPage
import SignOn.Request.Basic
import SignOn.Request.Record
import SignOn.Rounding
import SignOn.Service.Basic
import SignOn.Service.Interaction
import SignOn.Service.Routes
import SignOn.Session.Login
import SignOn.Session.State
import SignOn.Session.Store
import SignOn.Settings
import SignOn.Text.Cased
import SignOn.Text.Cut
import SignOn.Text.Hex
import SignOn.Text.Integer
import SignOn.Text.Lowercase
import SignOn.Text.Numeral
import SignOn.Text.Printable
import SignOn.Text.Utf8
import SignOn.Time.Basic
import SignOn.Uri.Basic
import SignOn.Uri.Form
import SignOn.Uri.Host
import SignOn.Proofs.Audit.ListingLaws
import SignOn.Proofs.Client.RedirectLaws
import SignOn.Proofs.Database.Reseeding
import SignOn.Proofs.Database.SeedLaws
import SignOn.Proofs.Database.SeededClient
import SignOn.Proofs.Decision.OverdueLogin
import SignOn.Proofs.HandoffLaws
import SignOn.Proofs.Http.FormLaws
import SignOn.Proofs.Http.RequestLaws
import SignOn.Proofs.Interception.Coupling
import SignOn.Proofs.Interception.DecisionTable
import SignOn.Proofs.Interception.Interrupted
import SignOn.Proofs.Interception.Outcome
import SignOn.Proofs.Interception.SameReading
import SignOn.Proofs.Interception.Undecided
import SignOn.Proofs.Interception.Verdict
import SignOn.Proofs.Json.AtomLaws
import SignOn.Proofs.Json.TextLaws
import SignOn.Proofs.LoginPageLaws
import SignOn.Proofs.Request.AgeLimit
import SignOn.Proofs.Request.SameReading
import SignOn.Proofs.Service.Backends
import SignOn.Proofs.Service.Conservation
import SignOn.Proofs.Service.Coupling
import SignOn.Proofs.Service.ErrorAnswers
import SignOn.Proofs.Service.ExchangeLaws
import SignOn.Proofs.Service.ForcedLogin
import SignOn.Proofs.Service.FormRequests
import SignOn.Proofs.Service.InteractionLaws
import SignOn.Proofs.Service.Isolation
import SignOn.Proofs.Service.LastLogin
import SignOn.Proofs.Service.LeftPending
import SignOn.Proofs.Service.LoginRoundTrip
import SignOn.Proofs.Service.Mediation
import SignOn.Proofs.Service.OneShotMarker
import SignOn.Proofs.Service.Outage
import SignOn.Proofs.Service.RedirectTargets
import SignOn.Proofs.Service.Reentry
import SignOn.Proofs.Service.RejectedLogin
import SignOn.Proofs.Service.Run
import SignOn.Proofs.Service.Scripts
import SignOn.Proofs.Service.SessionSteps
import SignOn.Proofs.Service.SpentMarker
import SignOn.Proofs.Session.Backends
import SignOn.Proofs.Session.Calls
import SignOn.Proofs.Session.Coupling
import SignOn.Proofs.Session.Documents
import SignOn.Proofs.Session.FaultLaws
import SignOn.Proofs.Session.RowLaws
import SignOn.Proofs.Session.StoreLaws
import SignOn.Proofs.Session.Writes
import SignOn.Proofs.Text.BlankLaws
import SignOn.Proofs.Text.MarkupLaws
import SignOn.Proofs.Text.NumeralLaws
import SignOn.Proofs.Text.TagReader
import SignOn.Proofs.Text.Utf8Laws
import SignOn.Proofs.Time.WholeSeconds
import SignOn.Proofs.Uri.FormLaws
import SignOn.Proofs.Uri.SplitLaws
