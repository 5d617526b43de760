import BridgeKeeper.Host.Sharing
import BridgeKeeper.Main
import BridgeKeeper.Ssh.Observed
import BridgeKeeper.Ssh.Transport
import BridgeKeeper.Proofs.Lookup
import BridgeKeeper.Proofs.Bridge.Move
import BridgeKeeper.Proofs.Bridge.Invariant
import BridgeKeeper.Proofs.Bridge.Lifecycle
import BridgeKeeper.Proofs.Bridge.Links
import BridgeKeeper.Proofs.Bridge.Ownership
import BridgeKeeper.Proofs.Bridge.Verdict
import BridgeKeeper.Proofs.Bridge.Fanout
import BridgeKeeper.Proofs.Bridge.Isolation
import BridgeKeeper.Proofs.Bridge.Rest
import BridgeKeeper.Proofs.Bridge.Calls
import BridgeKeeper.Proofs.Bridge.Watch
import BridgeKeeper.Proofs.Bridge.Clearing
import BridgeKeeper.Proofs.Bridge.Booting
import BridgeKeeper.Proofs.Json.RoundTrip
import BridgeKeeper.Proofs.Text.Utf8
import BridgeKeeper.Proofs.Disk.Place
import BridgeKeeper.Proofs.Host.Codec
import BridgeKeeper.Proofs.Disk.Directories
import BridgeKeeper.Proofs.Disk.Loading
import BridgeKeeper.Proofs.Host.Atomic
import BridgeKeeper.Proofs.Disk.Saving
import BridgeKeeper.Proofs.Host.Book
import BridgeKeeper.Proofs.Host.Shelf
import BridgeKeeper.Proofs.Disk.Matching
import BridgeKeeper.Proofs.Disk.Midway
import BridgeKeeper.Proofs.Host.Queue
import BridgeKeeper.Proofs.Host.Serial
import BridgeKeeper.Proofs.Host.Callers
import BridgeKeeper.Proofs.Host.Recovery
import BridgeKeeper.Proofs.Json.Members
import BridgeKeeper.Proofs.Host.Newer
import BridgeKeeper.Proofs.Host.Provisioning
import BridgeKeeper.Proofs.Host.Secrecy
import BridgeKeeper.Proofs.Host.DefaultHost
import BridgeKeeper.Proofs.Supervisor.Course
import BridgeKeeper.Proofs.Supervisor.Teardown
import BridgeKeeper.Proofs.Probe.Mailbox
import BridgeKeeper.Proofs.Probe.Pacing
import BridgeKeeper.Proofs.Ssh.Turn
import BridgeKeeper.Proofs.Ssh.Order
import BridgeKeeper.Proofs.Ssh.Answers
import BridgeKeeper.Proofs.Ssh.Reasons
import BridgeKeeper.Proofs.Ssh.Service
import BridgeKeeper.Proofs.Ssh.Forwards
import BridgeKeeper.Proofs.Ssh.Notices
import BridgeKeeper.Proofs.Ssh.Closing
import BridgeKeeper.Proofs.Ssh.Contract
import BridgeKeeper.Proofs.Ssh.Opening
import BridgeKeeper.Proofs.Text.Percent
import BridgeKeeper.Proofs.Url.Appending
import BridgeKeeper.Proofs.Directory.Login
import BridgeKeeper.Proofs.Url.Ipv6
import BridgeKeeper.Proofs.Url.Authority
import BridgeKeeper.Proofs.Url.Printing
import BridgeKeeper.Proofs.Host.Uri
import BridgeKeeper.Proofs.Host.Naming
import BridgeKeeper.Proofs.Bridge.Restoring
import BridgeKeeper.Proofs.Bridge.Secrecy
import BridgeKeeper.Proofs.Bridge.DefaultRule
import BridgeKeeper.Proofs.Bridge.Disconnecting
import BridgeKeeper.Proofs.Bridge.Sweeping
import BridgeKeeper.Proofs.Bridge.Reporting
import BridgeKeeper.Proofs.Bridge.Reusing
import BridgeKeeper.Proofs.Host.Element
import BridgeKeeper.Proofs.Json.Overlay
import BridgeKeeper.Proofs.Settings.Overlay
import BridgeKeeper.Proofs.Disk.Savable
import BridgeKeeper.Proofs.Settings.RoundTrip
import BridgeKeeper.Proofs.Json.Numeral
import BridgeKeeper.Proofs.Probe.Sentinel
import BridgeKeeper.Proofs.Url.Path
import BridgeKeeper.Proofs.Url.Web
import BridgeKeeper.Proofs.Directory.Base
import BridgeKeeper.Proofs.Host.UriText
import BridgeKeeper.Proofs.Host.Logins
import BridgeKeeper.Proofs.Text.Ends
import BridgeKeeper.Proofs.Text.Numeral
import BridgeKeeper.Proofs.Probe.Nickname
import BridgeKeeper.Proofs.Bridge.Rounds
