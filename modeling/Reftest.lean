import Reftest.Config.Layout
import Reftest.Main
import Reftest.Proofs.Arguments.Finality
import Reftest.Proofs.Arguments.Reading
import Reftest.Proofs.CommandLine.Footprint
import Reftest.Proofs.CommandLine.History
import Reftest.Proofs.CommandLine.Loading
import Reftest.Proofs.CommandLine.NulOctet
import Reftest.Proofs.CommandLine.Reporting
import Reftest.Proofs.CommandLine.StandardError
import Reftest.Proofs.CommandLine.Status
import Reftest.Proofs.CommandLine.Streams
import Reftest.Proofs.Config.Excerpt
import Reftest.Proofs.Config.Leading
import Reftest.Proofs.Config.Overriding
import Reftest.Proofs.Config.Positional
import Reftest.Proofs.Config.RoundTrip
import Reftest.Proofs.Files.Ground
import Reftest.Proofs.Files.Planting
import Reftest.Proofs.Program.Execution
import Reftest.Proofs.Program.Resolution
import Reftest.Proofs.Run.Address
import Reftest.Proofs.Run.Announcement
import Reftest.Proofs.Run.Choice
import Reftest.Proofs.Run.Course
import Reftest.Proofs.Run.OldLog
import Reftest.Proofs.Run.SelfLog
import Reftest.Proofs.Run.Streams
import Reftest.Proofs.Text.Encoding
