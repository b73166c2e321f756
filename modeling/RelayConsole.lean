import RelayConsole.Main
import RelayConsole.View.Plain
import RelayConsole.View.Ungated
import RelayConsole.Proofs.View.Document
import RelayConsole.Proofs.Widget.Acts
import RelayConsole.Proofs.Session.Moves
import RelayConsole.Proofs.Session.History
import RelayConsole.Proofs.Session.Early
import RelayConsole.Proofs.Session.Frames
import RelayConsole.Proofs.Session.Writing
import RelayConsole.Proofs.Session.Handover
import RelayConsole.Proofs.Session.Decision
import RelayConsole.Proofs.Session.Exits
import RelayConsole.Proofs.Widget.Desk
import RelayConsole.Proofs.Session.Order
import RelayConsole.Proofs.Panel.Steps
import RelayConsole.Proofs.Panel.Gating
import RelayConsole.Proofs.Panel.Sending
import RelayConsole.Session.Series
import RelayConsole.Proofs.Session.Acts
import RelayConsole.Proofs.Session.Submitting
import RelayConsole.Proofs.Console.Relay
import RelayConsole.Proofs.View.Carried
import RelayConsole.Proofs.Session.Carried
import RelayConsole.Proofs.Panel.Lasting
import RelayConsole.Proofs.Session.Series
import RelayConsole.Proofs.View.Related
import RelayConsole.Proofs.Widget.Calls
import RelayConsole.Proofs.View.Metered
import RelayConsole.Proofs.Panel.Related
import RelayConsole.Proofs.Panel.Terminal
import RelayConsole.Proofs.Text.Cut
import RelayConsole.Proofs.Text.Digits
import RelayConsole.Proofs.Url.Reading
import RelayConsole.Proofs.Url.Host
import RelayConsole.Proofs.Url.Authority
import RelayConsole.Text.Position
import RelayConsole.Proofs.Text.Utf8
import RelayConsole.Proofs.Text.Position
import RelayConsole.Proofs.Endpoint.Parsing
import RelayConsole.Proofs.Endpoint.Offset
import RelayConsole.Proofs.Endpoint.Modes
import RelayConsole.Proofs.Endpoint.Suffix
import RelayConsole.Proofs.Endpoint.Scheme
import RelayConsole.Proofs.Panel.Renamed
import RelayConsole.Proofs.Settings.Keys
import RelayConsole.Proofs.Settings.Precedence
import RelayConsole.Proofs.Settings.Printed
import RelayConsole.Proofs.Panel.Lifecycle
import RelayConsole.Proofs.Panel.Response
import RelayConsole.Proofs.Panel.Posting
import RelayConsole.Proofs.Session.Unsent
import RelayConsole.View.Calls
import RelayConsole.Proofs.View.History
import RelayConsole.Panel.Deed
import RelayConsole.Proofs.View.Alike
import RelayConsole.Proofs.Panel.Direct
import RelayConsole.Proofs.View.Faults
import RelayConsole.Proofs.Panel.Faults
import RelayConsole.Proofs.View.Course
import RelayConsole.Proofs.Widget.Reach
import RelayConsole.Proofs.Panel.Roles
