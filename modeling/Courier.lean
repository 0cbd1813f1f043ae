import Courier.Form.Catalog
import Courier.Log.Message
import Courier.Log.Scope
import Courier.Main
import Courier.Proofs.Dispatch.Outcome
import Courier.Proofs.Dispatch.Traffic
import Courier.Proofs.Store.Agreement
import Courier.Proofs.Store.Run
import Courier.Proofs.Template.Evaluation
import Courier.Proofs.Store.Independence
import Courier.Proofs.Dispatch.Confluence
import Courier.Proofs.Store.Procedure
import Courier.Proofs.Store.Traceless
import Courier.Proofs.Store.Sweeping
import Courier.Proofs.Dispatch.Discretion
import Courier.Proofs.Settings.Runnable
import Courier.Proofs.Loading
import Courier.Proofs.Template.Layout
import Courier.Proofs.Template.BuiltIn
import Courier.Proofs.Dispatch.Facts
import Courier.Proofs.Dispatch.Senders
import Courier.Proofs.Dispatch.Indifference
import Courier.Proofs.Template.Idempotence
import Courier.Proofs.Command.Sending
import Courier.Proofs.History.Order
import Courier.Proofs.Store.Course
import Courier.Proofs.Store.Listing
import Courier.Proofs.Record.Times
import Courier.Proofs.Store.Times
import Courier.Proofs.Store.Reporting
import Courier.Proofs.Settings.Duration
import Courier.Proofs.Stats.Tally
import Courier.Proofs.Transport.Mail
import Courier.Proofs.Transport.Report
import Courier.Proofs.Transport.Payload
import Courier.Proofs.Template.Gathering
import Courier.Proofs.Store.Preferences
import Courier.Proofs.Database.Secrecy
import Courier.Proofs.Double.Reading
import Courier.Proofs.Json.Line
import Courier.Proofs.Json.Reading
import Courier.Proofs.Log.Document
import Courier.Proofs.Record.Revision
import Courier.Proofs.Preference.Clock
