import DepthBridge.Bridge.Control
import DepthBridge.Bridge.Duration
import DepthBridge.Bridge.Node
import DepthBridge.Bridge.Session
import DepthBridge.Bridge.Summary
import DepthBridge.Bus.Basic
import DepthBridge.Bus.Log
import DepthBridge.Bus.Recording
import DepthBridge.Calibration.Motion
import DepthBridge.Calibration.Record
import DepthBridge.Calibration.Registry
import DepthBridge.Cli.Commands
import DepthBridge.Cli.Help
import DepthBridge.Cli.Parse
import DepthBridge.Cli.Program
import DepthBridge.Cli.Spec
import DepthBridge.Cli.Value
import DepthBridge.Config.Basic
import DepthBridge.Config.FromJson
import DepthBridge.Config.FromToml
import DepthBridge.Config.Load
import DepthBridge.Config.Schema
import DepthBridge.Config.Write
import DepthBridge.Data.Bridge
import DepthBridge.Data.Cli
import DepthBridge.Data.Control
import DepthBridge.Data.Device
import DepthBridge.Data.Error
import DepthBridge.Data.Message
import DepthBridge.Data.Report
import DepthBridge.Data.Scene
import DepthBridge.Data.Source
import DepthBridge.Data.Stream
import DepthBridge.Decimal.Layout
import DepthBridge.Decimal.Shortest
import DepthBridge.Device.Block
import DepthBridge.Device.Fake
import DepthBridge.Device.Scene
import DepthBridge.Device.Service
import DepthBridge.Device.Simulated
import DepthBridge.Device.Source
import DepthBridge.Device.Table
import DepthBridge.Dispatch.Cloud
import DepthBridge.Dispatch.Depth
import DepthBridge.Dispatch.Image
import DepthBridge.Dispatch.Imu
import DepthBridge.Dispatch.Metrics
import DepthBridge.Dispatch.Pipeline
import DepthBridge.Dispatch.Pose
import DepthBridge.Dispatch.Sample
import DepthBridge.Dispatch.State
import DepthBridge.Error
import DepthBridge.Frame
import DepthBridge.Geometry.Camera
import DepthBridge.Geometry.Rotation
import DepthBridge.Halt
import DepthBridge.Json.Access
import DepthBridge.Json.Parse
import DepthBridge.Json.Value
import DepthBridge.Logging
import DepthBridge.Main
import DepthBridge.Message
import DepthBridge.Proofs.Align
import DepthBridge.Proofs.Clipping
import DepthBridge.Proofs.Counters
import DepthBridge.Proofs.Depth
import DepthBridge.Proofs.Frameset
import DepthBridge.Proofs.Gate
import DepthBridge.Proofs.Image
import DepthBridge.Proofs.Inertial
import DepthBridge.Proofs.Interleaving
import DepthBridge.Proofs.Invariant
import DepthBridge.Proofs.Rows
import DepthBridge.Proofs.Run
import DepthBridge.Proofs.Selection
import DepthBridge.Proofs.Setup
import DepthBridge.Proofs.SignedZero
import DepthBridge.Proofs.Registry
import DepthBridge.Proofs.Decimation
import DepthBridge.Proofs.BlockSafety
import DepthBridge.Proofs.CloudMessage
import DepthBridge.Proofs.Switching
import DepthBridge.Proofs.Triple
import DepthBridge.Proofs.TreeGrowth
import DepthBridge.Proofs.PoseRouting
import DepthBridge.Proofs.SceneLayout
import DepthBridge.Proofs.RealRotation
import DepthBridge.Proofs.BodyAxes
import DepthBridge.Proofs.ConfigRoundTrip
import DepthBridge.Random.ChaCha
import DepthBridge.Rounding
import DepthBridge.Stamp
import DepthBridge.Stats.Running
import DepthBridge.Stream
import DepthBridge.Sync.Clock
import DepthBridge.Sync.Gate
import DepthBridge.Sync.Inertial
import DepthBridge.Text.Blank
import DepthBridge.Text.Printable
import DepthBridge.Toml.Token
import DepthBridge.Toml.Fault
import DepthBridge.Toml.Datetime
import DepthBridge.Toml.Scalar
import DepthBridge.Toml.Document
import DepthBridge.Toml.Syntax
import DepthBridge.Transform.Names
import DepthBridge.Transform.Tree
import DepthBridge.Proofs.Naming
import DepthBridge.Proofs.BusTime
import DepthBridge.Proofs.PackedFloat
import DepthBridge.Proofs.Records
import DepthBridge.Proofs.Welford
