import WgLink.Library.BigEndian
import WgLink.Library.Channel
import WgLink.Library.Emit
import WgLink.Library.Fallible
import WgLink.Library.Greatest
import WgLink.Library.HashMap
import WgLink.Library.Ledger
import WgLink.Library.Machine
import WgLink.Library.Parse
import WgLink.Library.Reads
import WgLink.Library.Saturating
import WgLink.Library.SlidingWindow
import WgLink.Library.StableSort
import WgLink.Library.Text
import WgLink.Library.Utf8
import WgLink.Library.Window
import WgLink.Net
import WgLink.Stun
import WgLink.Discovery
import WgLink.LanAnnouncement
import WgLink.HttpRequest
import WgLink.Wireguard
import WgLink.PeerLookup
import WgLink.Shortcut.Control
import WgLink.Shortcut.Engine
import WgLink.Shortcut.State
import WgLink.Shortcut.Renewal
import WgLink.Shortcut.RenewalRuns
import WgLink.Shortcut.ManagerRuns
import WgLink.Shortcut.Transit
import WgLink.Shortcut.TransitRuns
import WgLink.Shortcut.Leases
import WgLink.Shortcut.RouteOwnership
import WgLink.Shortcut.ExpiryRetry
import WgLink.Shortcut.Cascade
import WgLink.Shortcut.SystemPolicy
import WgLink.Shortcut.PolicyCleanup
import WgLink.Shortcut.Delegation
import WgLink.Shortcut.LineageLimit
import WgLink.Shortcut.CutOver
import WgLink.Shortcut.Policy
import WgLink.Shortcut.RuleTargets
import WgLink.Shortcut.Device
import WgLink.Shortcut.RouteAgreement
import WgLink.Shortcut.RouteLookup
import WgLink.Shortcut.Controller
import WgLink.Shortcut.ControllerEffects
import WgLink.Shortcut.ControllerRuns
import WgLink.Identity
import WgLink.HashInputs
import WgLink.BrokerPorts
import WgLink.Node
import WgLink.PacketCapture
import WgLink.HubIssues
import WgLink.RelayFrame
import WgLink.Metrics
import WgLink.Broker
import WgLink.Management
import WgLink.GenerationChange
import WgLink.SelectionRuns
import WgLink.Relay
import WgLink.ProbeAccounting
import WgLink.NodeRuns
import WgLink.RouteAuthority
import WgLink.System
import WgLink.SystemRuns
import WgLink.Deadlock
import WgLink.Tunnels
import WgLink.Activation
import WgLink.Commands
import WgLink.Preparation
import WgLink.SessionAgreement
import WgLink.Handshakes
import WgLink.Endpoint
import WgLink.Pair
import WgLink.Library.Conservation
import WgLink.Forwarding
import WgLink.ProbeOrigins
import WgLink.ForwardingAccounts
import WgLink.ForwardingReports
import WgLink.RelayNetwork
import WgLink.RelayNetworkRuns
import WgLink.Fallback
import WgLink.Library.Rows
import WgLink.WireguardShow
import WgLink.Daemon
import WgLink.MetricsRuns
import WgLink.LanDiscovery
import WgLink.Tracker
import WgLink.TrackerSwarms
import WgLink.Shortcut.KernelRules
import WgLink.Shortcut.RuleKernel
import WgLink.Shortcut.GenerationRules
import WgLink.ControlChannel
import WgLink.EndpointRepair
