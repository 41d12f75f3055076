import ThresholdDaemon.Allocation
import ThresholdDaemon.Call
import ThresholdDaemon.CommandLine.Error
import ThresholdDaemon.CommandLine.Scan
import ThresholdDaemon.CommandLine.Similarity
import ThresholdDaemon.CommandLine.Usage
import ThresholdDaemon.Config
import ThresholdDaemon.Config.Setting
import ThresholdDaemon.Connection
import ThresholdDaemon.Counters
import ThresholdDaemon.Curve.Encoding
import ThresholdDaemon.Curve.Field
import ThresholdDaemon.Curve.HashToPoint
import ThresholdDaemon.Curve.Pairing
import ThresholdDaemon.Curve.Point
import ThresholdDaemon.Decimal.Count
import ThresholdDaemon.Decimal.Shortest
import ThresholdDaemon.Digest.Keystream
import ThresholdDaemon.Digest.Sha3
import ThresholdDaemon.Dispatch
import ThresholdDaemon.Dispatch.Deal
import ThresholdDaemon.Dispatch.Error
import ThresholdDaemon.FileSystem
import ThresholdDaemon.FileSystem.Calls
import ThresholdDaemon.FileSystem.Listing
import ThresholdDaemon.FileSystem.Path
import ThresholdDaemon.FileSystem.Walk
import ThresholdDaemon.Frame
import ThresholdDaemon.Frame.Deliver
import ThresholdDaemon.Frame.Receive
import ThresholdDaemon.Health
import ThresholdDaemon.Host
import ThresholdDaemon.Json.Convert
import ThresholdDaemon.Json.Cursor
import ThresholdDaemon.Json.Fault
import ThresholdDaemon.Json.Literal
import ThresholdDaemon.Json.Numeral
import ThresholdDaemon.Json.Print
import ThresholdDaemon.Json.Read
import ThresholdDaemon.Json.Typed
import ThresholdDaemon.Json.Value
import ThresholdDaemon.Launch
import ThresholdDaemon.Launch.Error
import ThresholdDaemon.Launch.Exit
import ThresholdDaemon.Launch.Host
import ThresholdDaemon.Listener
import ThresholdDaemon.Listener.Binding
import ThresholdDaemon.Log.Event
import ThresholdDaemon.Log.Filter
import ThresholdDaemon.Log.Format
import ThresholdDaemon.Log.Line
import ThresholdDaemon.Log.Pattern
import ThresholdDaemon.Log.Record
import ThresholdDaemon.Log.Telemetry
import ThresholdDaemon.Main
import ThresholdDaemon.Payload
import ThresholdDaemon.Payload.Print
import ThresholdDaemon.Payload.Read
import ThresholdDaemon.Proofs.Counters
import ThresholdDaemon.Proofs.Dispatch.Plan
import ThresholdDaemon.Proofs.Dispatch.Verdict
import ThresholdDaemon.Proofs.Frame.Deliver
import ThresholdDaemon.Proofs.Frame.Receive
import ThresholdDaemon.Proofs.Session.Transcript
import ThresholdDaemon.Provider
import ThresholdDaemon.Provider.Scripted
import ThresholdDaemon.Server
import ThresholdDaemon.Session
import ThresholdDaemon.Shutdown
import ThresholdDaemon.Socket.Directory
import ThresholdDaemon.Socket.Path
import ThresholdDaemon.SystemError
import ThresholdDaemon.Text.Alphanumeric
import ThresholdDaemon.Text.Ascii
import ThresholdDaemon.Text.Blank
import ThresholdDaemon.Text.Hidden
import ThresholdDaemon.Text.Lines
import ThresholdDaemon.Text.Quoted
import ThresholdDaemon.Text.Ranges
import ThresholdDaemon.Text.Slice
import ThresholdDaemon.Text.Utf8
import ThresholdDaemon.Threshold.Coins
import ThresholdDaemon.Threshold.Material
import ThresholdDaemon.Threshold.Polynomial
import ThresholdDaemon.Threshold.Provider
import ThresholdDaemon.Threshold.Suite
import ThresholdDaemon.WorkerPool
import ThresholdDaemon.Proofs.Session.Step
import ThresholdDaemon.Proofs.Session.Run
import ThresholdDaemon.Proofs.Session.Accounting
import ThresholdDaemon.Proofs.Process.Act
import ThresholdDaemon.Proofs.Process.Isolation
import ThresholdDaemon.Proofs.Process.Accounting
import ThresholdDaemon.Proofs.Json.Convert
import ThresholdDaemon.Proofs.Curve.Scalar
import ThresholdDaemon.Proofs.Threshold.Polynomial
import ThresholdDaemon.Proofs.Threshold.Laws
import ThresholdDaemon.Proofs.Threshold.Material
import ThresholdDaemon.Proofs.Curve.Encoding
import ThresholdDaemon.Proofs.Threshold.Exponents
import ThresholdDaemon.Proofs.Text.Utf8
import ThresholdDaemon.Proofs.Frame.Decode
import ThresholdDaemon.Proofs.Frame.RoundTrip
import ThresholdDaemon.Proofs.Json.Yields
import ThresholdDaemon.Proofs.Json.Literal
import ThresholdDaemon.Proofs.Json.Numeral
import ThresholdDaemon.Proofs.Json.Reads
import ThresholdDaemon.Proofs.Payload.Reads
import ThresholdDaemon.Proofs.Threshold.Verdict
import ThresholdDaemon.Proofs.Threshold.Verify
import ThresholdDaemon.Proofs.Threshold.Outcome
import ThresholdDaemon.Proofs.Json.Length
import ThresholdDaemon.Proofs.Dispatch.Headroom
import ThresholdDaemon.Proofs.Dispatch.LongestRequest
import ThresholdDaemon.Proofs.Threshold.Headroom
import ThresholdDaemon.Proofs.Dispatch.Chain
import ThresholdDaemon.Proofs.Session.Endurance
import ThresholdDaemon.Proofs.Process.Endurance
import ThresholdDaemon.Proofs.FileSystem.Path
import ThresholdDaemon.Proofs.FileSystem.Walk
import ThresholdDaemon.Proofs.FileSystem.Ending
import ThresholdDaemon.Proofs.FileSystem.Keeps
import ThresholdDaemon.Proofs.Socket.Directory
import ThresholdDaemon.Proofs.Listener.Ownership
import ThresholdDaemon.Proofs.Listener.Binding
import ThresholdDaemon.Proofs.Server.Binding
import ThresholdDaemon.Proofs.Process.Settling
import ThresholdDaemon.Proofs.Server.Settling
import ThresholdDaemon.Proofs.Host.Servers
import ThresholdDaemon.Proofs.Host.Ownership
import ThresholdDaemon.Proofs.Host.Lifecycle
import ThresholdDaemon.Proofs.Listener.Race
import ThresholdDaemon.Proofs.Pool.History
import ThresholdDaemon.Proofs.Session.Stride
import ThresholdDaemon.Proofs.Pool.Service
import ThresholdDaemon.Proofs.Session.Trail
import ThresholdDaemon.Proofs.Pool.Shutdown
import ThresholdDaemon.Proofs.Launch.Course
import ThresholdDaemon.Proofs.Server.Running
import ThresholdDaemon.Proofs.Launch.Order
import ThresholdDaemon.Proofs.Decimal.Count
import ThresholdDaemon.Proofs.Config.Setting
import ThresholdDaemon.Proofs.CommandLine.Scan
import ThresholdDaemon.Proofs.CommandLine.Precedence
import ThresholdDaemon.Proofs.Frame.Reuse
import ThresholdDaemon.Proofs.Frame.Grammar
import ThresholdDaemon.Proofs.Dispatch.Routing
import ThresholdDaemon.Proofs.Threshold.Deal
import ThresholdDaemon.Proofs.Json.Gives
import ThresholdDaemon.Proofs.Payload.NormalForm
import ThresholdDaemon.Proofs.Listener.Outcome
import ThresholdDaemon.Proofs.Socket.Promise
import ThresholdDaemon.Proofs.Socket.Grammar
import ThresholdDaemon.Proofs.Threshold.LengthBound
