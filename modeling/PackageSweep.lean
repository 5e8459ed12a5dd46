import PackageSweep.Arguments.Programs
import PackageSweep.Clock
import PackageSweep.Config.Decode
import PackageSweep.Config.Load
import PackageSweep.Config.Validation
import PackageSweep.Directory
import PackageSweep.Fault
import PackageSweep.Json.Reader
import PackageSweep.Json.Writer
import PackageSweep.Log.Event
import PackageSweep.Main
import PackageSweep.Program.Sweep
import PackageSweep.Program.Versions
import PackageSweep.Proofs.Acceptance
import PackageSweep.Proofs.Arguments.Acceptance
import PackageSweep.Proofs.Arguments.Grammar
import PackageSweep.Proofs.Arguments.Verbatim
import PackageSweep.Proofs.Config.EarliestOffence
import PackageSweep.Proofs.Config.Expansion
import PackageSweep.Proofs.Config.ListDocument
import PackageSweep.Proofs.Config.ManifestPrefixes
import PackageSweep.Proofs.Config.PackageList
import PackageSweep.Proofs.Config.Scan
import PackageSweep.Proofs.Config.SingleSource
import PackageSweep.Proofs.Json.RoundTrip
import PackageSweep.Proofs.NormalForm
import PackageSweep.Proofs.Pieces
import PackageSweep.Proofs.Program.ExitStatus
import PackageSweep.Proofs.Program.Preparation
import PackageSweep.Proofs.Program.Streams
import PackageSweep.Proofs.Program.VersionOutput
import PackageSweep.Proofs.Result
import PackageSweep.Proofs.Spelling
import PackageSweep.Proofs.Sweep.Account
import PackageSweep.Proofs.Sweep.CallSequence
import PackageSweep.Proofs.Sweep.Confinement
import PackageSweep.Proofs.Sweep.LogText
import PackageSweep.Proofs.Sweep.ManifestGuard
import PackageSweep.Proofs.Sweep.Preview
import PackageSweep.Proofs.Sweep.Respelling
import PackageSweep.Proofs.Sweep.Story
import PackageSweep.Proofs.Sweep.Visits
import PackageSweep.Proofs.Sweep.WindowsOnly
import PackageSweep.Proofs.Toml.BasicString
import PackageSweep.Proofs.Toml.Kept
import PackageSweep.Proofs.Toml.StringArray
import PackageSweep.Proofs.TotalTime
import PackageSweep.Proofs.Trimming
import PackageSweep.Proofs.Version.FirstFault
import PackageSweep.Proofs.Version.FirstSource
import PackageSweep.Proofs.Version.NextPatch
import PackageSweep.Proofs.Version.Rows
import PackageSweep.Proofs.Version.TableReading
import PackageSweep.Proofs.World.Decoding
import PackageSweep.Proofs.World.Environment
import PackageSweep.Proofs.World.Existence
import PackageSweep.Proofs.World.Reading
import PackageSweep.Proofs.World.Walk
import PackageSweep.Shell.Spawn
import PackageSweep.Sweep.Report
import PackageSweep.Sweep.Run
import PackageSweep.System.Fault
import PackageSweep.Text.Blank
import PackageSweep.Text.Lowercase
import PackageSweep.Text.Numeral
import PackageSweep.Text.Quoted
import PackageSweep.Text.Utf8
import PackageSweep.Toml.Reader
import PackageSweep.Version.Collect
import PackageSweep.Version.Lookup
import PackageSweep.Version.Next
import PackageSweep.World.Edit
