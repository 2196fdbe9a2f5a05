import Gatehouse.Failure.Arguments
import Gatehouse.Gateway.Application
import Gatehouse.Log.Line
import Gatehouse.Main
import Gatehouse.Settings.Shown
import Gatehouse.Store.Cells
import Gatehouse.Text.Lines
import Gatehouse.Time.Fields
import Gatehouse.Proofs.Script.Steps
import Gatehouse.Proofs.Deadline.Answer
import Gatehouse.Proofs.Number.Rounding
import Gatehouse.Proofs.Deadline.Transparency
import Gatehouse.Proofs.Gateway.Isolation
import Gatehouse.Proofs.Gateway.Delivery
import Gatehouse.Proofs.Gateway.DevSession
import Gatehouse.Proofs.Gateway.OnSite
import Gatehouse.Proofs.Gateway.SettingsPage
import Gatehouse.Proofs.Gateway.SignedIn
import Gatehouse.Proofs.Gateway.Authorization
import Gatehouse.Proofs.Tenancy.Production
import Gatehouse.Proofs.Tenancy.Fallback
import Gatehouse.Proofs.Json.Roundtrip
import Gatehouse.Proofs.Json.Bytes
import Gatehouse.Proofs.Session.Clock
import Gatehouse.Proofs.Session.Segments
import Gatehouse.Proofs.Time.Calendar
import Gatehouse.Proofs.Session.Stages
import Gatehouse.Proofs.Session.Window
import Gatehouse.Proofs.Gateway.SessionCookie
import Gatehouse.Proofs.Gateway.TwoRuns
import Gatehouse.Proofs.Http.Cookies
import Gatehouse.Proofs.Http.OneCookie
import Gatehouse.Proofs.Gateway.Selects
import Gatehouse.Proofs.Gateway.Explaining
import Gatehouse.Proofs.Session.Spaced
import Gatehouse.Proofs.Gateway.Sink
import Gatehouse.Proofs.Gateway.Probes
import Gatehouse.Proofs.Persistence.Cancellation
import Gatehouse.Proofs.Gateway.Undisclosed
import Gatehouse.Proofs.Gateway.SiteStage
import Gatehouse.Proofs.Deadline.Enforcement
import Gatehouse.Proofs.Gateway.Rendering
import Gatehouse.Proofs.Gateway.Attribution
import Gatehouse.Proofs.Gateway.SiteLogged
import Gatehouse.Proofs.Deadline.Outside
import Gatehouse.Proofs.Deadline.Lost
import Gatehouse.Proofs.Json.Overlong
import Gatehouse.Proofs.Gateway.SignInBody
import Gatehouse.Proofs.Gateway.Hidden
import Gatehouse.Proofs.Gateway.AnyUser
import Gatehouse.Proofs.Auth.Lookup
import Gatehouse.Proofs.Auth.Judgement
import Gatehouse.Proofs.Status
import Gatehouse.Proofs.Gateway.UnknownHost
