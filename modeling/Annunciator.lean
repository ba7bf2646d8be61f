import Annunciator.Acknowledgment
import Annunciator.Activity
import Annunciator.Calendar.Date
import Annunciator.Calendar.TimeOfDay
import Annunciator.Calendar.Timestamp
import Annunciator.Calendar.Weekday
import Annunciator.Calendar.Written
import Annunciator.ClassRegistry
import Annunciator.Configuration.Basic
import Annunciator.Configuration.Loading
import Annunciator.Configuration.Reading
import Annunciator.Configuration.Validity
import Annunciator.Dispatch
import Annunciator.EventId
import Annunciator.EventState
import Annunciator.Exchange.Answers
import Annunciator.Exchange.Operations
import Annunciator.Failure
import Annunciator.Identity
import Annunciator.Json.Basic
import Annunciator.Json.Form
import Annunciator.Json.Written
import Annunciator.Main
import Annunciator.Monitor
import Annunciator.NotificationClass
import Annunciator.ObjectTable
import Annunciator.Point.AlarmCondition
import Annunciator.Point.Basic
import Annunciator.Point.Description
import Annunciator.PointTable
import Annunciator.PriorityLadder
import Annunciator.Proofs.Activities
import Annunciator.Proofs.Audience
import Annunciator.Proofs.DeliveryWindows
import Annunciator.Proofs.Dispatch
import Annunciator.Proofs.Histories
import Annunciator.Proofs.Ladder.Changes
import Annunciator.Proofs.Ladder.Commands
import Annunciator.Proofs.Ladder.History
import Annunciator.Proofs.Ladder.Typing
import Annunciator.Proofs.Monitor.AnnouncementBudget
import Annunciator.Proofs.Monitor.Announcements
import Annunciator.Proofs.Monitor.Bookkeeping
import Annunciator.Proofs.Monitor.Consistency
import Annunciator.Proofs.Monitor.Countdown
import Annunciator.Proofs.Monitor.History
import Annunciator.Proofs.Monitor.Replay
import Annunciator.Proofs.Network
import Annunciator.Proofs.PageSearch
import Annunciator.Proofs.Point.Acceptance
import Annunciator.Proofs.Point.Flags
import Annunciator.Proofs.Point.Parts
import Annunciator.Proofs.Point.Records
import Annunciator.Proofs.Point.Typing
import Annunciator.Proofs.RecipientLists
import Annunciator.Proofs.ReportingTables
import Annunciator.Proofs.Saved.Forms
import Annunciator.Proofs.Saved.Lines
import Annunciator.Proofs.Saved.Points
import Annunciator.Proofs.Saved.Times
import Annunciator.Proofs.Settings
import Annunciator.Proofs.SortedMaps
import Annunciator.Proofs.Station.ActiveEvents
import Annunciator.Proofs.Station.AlarmQueries
import Annunciator.Proofs.Station.Bindings
import Annunciator.Proofs.Station.Delivery
import Annunciator.Proofs.Station.Furnishing
import Annunciator.Proofs.Station.Isolation
import Annunciator.Proofs.Station.Layout
import Annunciator.Proofs.Station.Lives
import Annunciator.Proofs.Station.Locality
import Annunciator.Proofs.Station.Notifications
import Annunciator.Proofs.Station.Outputs
import Annunciator.Proofs.Station.Paging
import Annunciator.Proofs.Station.Points
import Annunciator.Proofs.Station.Publications
import Annunciator.Proofs.Station.Reached
import Annunciator.Proofs.Station.Rebinding
import Annunciator.Proofs.Station.Requests
import Annunciator.Proofs.Station.Settings
import Annunciator.Proofs.Station.Startup
import Annunciator.Proofs.Station.Steps
import Annunciator.Proofs.Station.Sweeping
import Annunciator.Proofs.Station.ValidStart
import Annunciator.Proofs.Station.ValueChanges
import Annunciator.Proofs.ValidConfigurations
import Annunciator.Recipient
import Annunciator.Report
import Annunciator.SortedMap
import Annunciator.Station.Alarms
import Annunciator.Station.Basic
import Annunciator.Station.Commands
import Annunciator.Station.Evaluation
import Annunciator.Station.Operation
import Annunciator.Station.Recipients
import Annunciator.Station.Startup
import Annunciator.Surroundings.EventBus
import Annunciator.Surroundings.Network
import Annunciator.Surroundings.Output
import Annunciator.Surroundings.Settings
import Annunciator.Text.Blank
import Annunciator.Text.Decimal
import Annunciator.Text.Hex
import Annunciator.Toml.Document
import Annunciator.Toml.Lexeme
import Annunciator.Toml.Tree
import Annunciator.Value
