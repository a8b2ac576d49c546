import EdgeRig.AssetRouting
import EdgeRig.Calendar
import EdgeRig.Compile
import EdgeRig.Context
import EdgeRig.Fault
import EdgeRig.Fetch
import EdgeRig.FilePath
import EdgeRig.FileTree
import EdgeRig.Json5.Document
import EdgeRig.Json5.Number
import EdgeRig.Json5.Text
import EdgeRig.Lab
import EdgeRig.Loading
import EdgeRig.Lookup
import EdgeRig.Number.Binary64
import EdgeRig.Number.Numeral
import EdgeRig.Number.Scale
import EdgeRig.Number.Shortest
import EdgeRig.Number.Written
import EdgeRig.Outcome
import EdgeRig.Problem
import EdgeRig.Raising
import EdgeRig.Rig
import EdgeRig.Rule
import EdgeRig.Sample
import EdgeRig.Schema.Reading
import EdgeRig.Schema.Workers
import EdgeRig.Script
import EdgeRig.ServiceMock
import EdgeRig.Session
import EdgeRig.Settings
import EdgeRig.Setup
import EdgeRig.Simulator
import EdgeRig.Text.Halves
import EdgeRig.Text.Lines
import EdgeRig.Text.Pieces
import EdgeRig.Toml.Atom
import EdgeRig.Toml.Document
import EdgeRig.Toml.Quoted
import EdgeRig.Toml.Table
import EdgeRig.Unicode.Case
import EdgeRig.Unicode.CaseTables
import EdgeRig.Unicode.Composition
import EdgeRig.Unicode.Direction
import EdgeRig.Unicode.Joining
import EdgeRig.Unicode.Letters
import EdgeRig.Unicode.Marks
import EdgeRig.Unicode.Printable
import EdgeRig.Unicode.Ranges
import EdgeRig.Unicode.Scripts
import EdgeRig.Url.Basic
import EdgeRig.Url.Host
import EdgeRig.Url.Label
import EdgeRig.Url.LabelTable
import EdgeRig.Url.Percent
import EdgeRig.Url.Punycode
import EdgeRig.Url.Reference
import EdgeRig.Value
import EdgeRig.Value.Access
import EdgeRig.Value.Shown
import EdgeRig.Worker
import EdgeRig.WorkerEdit
import EdgeRig.Proofs.Compile.Primary
import EdgeRig.Proofs.Mapping
import EdgeRig.Proofs.Compile.Configuration
import EdgeRig.Proofs.Compile.BaseDirectory
import EdgeRig.Proofs.Compile.Rules
import EdgeRig.Proofs.Compile.Shape
import EdgeRig.Proofs.Compile.Total
import EdgeRig.Proofs.Schema.ReadBack
import EdgeRig.Proofs.Schema.Reading
import EdgeRig.Proofs.Schema.RoundTrip
import EdgeRig.Proofs.Options
import EdgeRig.Proofs.AssetRouting.Course
import EdgeRig.Proofs.AssetRouting.Parts
import EdgeRig.Proofs.AssetRouting.ReadBack
import EdgeRig.Proofs.WorkerGraph
import EdgeRig.Proofs.Setup.Runnable
import EdgeRig.Proofs.AssetRouting.Atomicity
import EdgeRig.Proofs.Rig.Entries
import EdgeRig.Proofs.Rig.Disposal
import EdgeRig.Proofs.Rig.Frame
import EdgeRig.Proofs.Session
import EdgeRig.Proofs.Rig.Listening
import EdgeRig.Proofs.Compile.Reads
import EdgeRig.Proofs.Setup.Stages
import EdgeRig.Proofs.Setup.PortOffset
import EdgeRig.Proofs.Text
import EdgeRig.Proofs.Url.Numerals
import EdgeRig.Proofs.Url.PlainHost
import EdgeRig.Proofs.Url.Reading
import EdgeRig.Proofs.Url.Joining
import EdgeRig.Proofs.Fetch
import EdgeRig.Proofs.FilePath
import EdgeRig.Proofs.Loading
import EdgeRig.Proofs.Loading.Extension
import EdgeRig.Proofs.Loading.LineEnds
import EdgeRig.Proofs.Setup.Paths
import EdgeRig.Proofs.Rig.Overwriting
import EdgeRig.Proofs.Rig.Entering
import EdgeRig.Proofs.AssetRouting.Effect
import EdgeRig.Proofs.AssetRouting.Edits
import EdgeRig.Proofs.Compile.StandIns
import EdgeRig.Proofs.Compile.MockFaults
import EdgeRig.Proofs.Compile.MockForms
import EdgeRig.Proofs.Lab
import EdgeRig.Proofs.Rule.Frame
import EdgeRig.Proofs.Rule.Order
import EdgeRig.Proofs.FilePath.Rebase
import EdgeRig.Proofs.Lookup
import EdgeRig.Proofs.Rule.Keyed
import EdgeRig.Proofs.Rule.Object
