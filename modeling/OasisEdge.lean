import OasisEdge.Lib.Chars
import OasisEdge.Lib.Doubles
import OasisEdge.Lib.Checking
import OasisEdge.Lib.Runs
import OasisEdge.Lib.Register
import OasisEdge.CJson.Value
import OasisEdge.CJson.Parse
import OasisEdge.CJson.Scalars
import OasisEdge.CJson.Fuel
import OasisEdge.CJson.Locality
import OasisEdge.Shadow.State
import OasisEdge.Shadow.Connect
import OasisEdge.Shadow.Set
import OasisEdge.Shadow.Update
import OasisEdge.App.Func
import OasisEdge.Led.Driver
import OasisEdge.Sample.EdgeClient
import OasisEdge.System.Platform
import OasisEdge.Sample.Safety
import OasisEdge.System.Steps
import OasisEdge.System.Reports
import OasisEdge.System.Convergence
import OasisEdge.System.Acknowledgement
import OasisEdge.System.Handshake
import OasisEdge.System.Heartbeat
import OasisEdge.System.Client
import OasisEdge.System.Memory
import OasisEdge.System.Actuation
import OasisEdge.System.Versions
import OasisEdge.System.Replay
import OasisEdge.System.Presence
import OasisEdge.System.Handlers
import OasisEdge.System.Delta
import OasisEdge.System.Uninitialised
import OasisEdge.System.Startup
import OasisEdge.Led.Install
import OasisEdge.System.Calls
import OasisEdge.Lib.Ledgers
import OasisEdge.Sample.Resources
import OasisEdge.System.Releases
import OasisEdge.Hal.Spi
import OasisEdge.Led.Hardware
import OasisEdge.System.LastState
import OasisEdge.Led.Registers
import OasisEdge.Lib.Calendar
import OasisEdge.Lib.Decimal
import OasisEdge.System.Commands
import OasisEdge.System.Monitor
import OasisEdge.System.Waiting
import OasisEdge.Utils.Tools
import OasisEdge.Utils.Timestamps
import OasisEdge.System.Clock
import OasisEdge.Utils.Uuid
import OasisEdge.System.Tokens
import OasisEdge.Lib.Nearest
import OasisEdge.Lib.Significant
import OasisEdge.CJson.Numbers
import OasisEdge.CJson.Print
import OasisEdge.CJson.RoundTrip
import OasisEdge.Lib.Attempts
import OasisEdge.CJson.PrintBuffer
import OasisEdge.Lib.Readers
import OasisEdge.Mqtt.Bytes
import OasisEdge.Mqtt.Properties
import OasisEdge.Mqtt.Packet
import OasisEdge.Mqtt.Stream
import OasisEdge.Mqtt.Delivery
import OasisEdge.Mqtt.Writes
import OasisEdge.Mqtt.Transport
import OasisEdge.Lib.Handshake
import OasisEdge.Lib.Keyed
import OasisEdge.Mqtt.MessageIds
import OasisEdge.Mqtt.Protocol
import OasisEdge.Mqtt.Exchange
import OasisEdge.Mqtt.Receiver
import OasisEdge.Mqtt.Sender
import OasisEdge.Mqtt.ExactlyOnce
