import Crosscheck.Corpus
import Crosscheck.Diagnostic
import Crosscheck.Machine
import Crosscheck.Main
import Crosscheck.Options.Help
import Crosscheck.Options.Reader
import Crosscheck.Reaction
import Crosscheck.Report
import Crosscheck.Run
import Crosscheck.Settings.Reader
import Crosscheck.Proofs.Capture
import Crosscheck.Proofs.Command
import Crosscheck.Proofs.Pipeline.Trace
import Crosscheck.Proofs.Pipeline.Comparison
import Crosscheck.Proofs.Gate
import Crosscheck.Proofs.Interleaving
import Crosscheck.Proofs.Settings.Layers
import Crosscheck.Proofs.Sources
import Crosscheck.Proofs.Corpus
import Crosscheck.Proofs.Removal
import Crosscheck.Proofs.History
import Crosscheck.Proofs.Pipeline.Course
import Crosscheck.Proofs.Pipeline.Artifacts
import Crosscheck.Proofs.Effects
import Crosscheck.Proofs.Progress
import Crosscheck.Proofs.Tally
import Crosscheck.Proofs.FailFast
import Crosscheck.Proofs.Coupling
import Crosscheck.Proofs.Diagnostics
import Crosscheck.Proofs.Footprint
import Crosscheck.Proofs.Independence
import Crosscheck.Proofs.Visits
import Crosscheck.Proofs.Splitting
import Crosscheck.Proofs.Changes
import Crosscheck.Proofs.Mismatch
import Crosscheck.Proofs.FileName
import Crosscheck.Proofs.Resolution
import Crosscheck.Proofs.Text.ByteOrder
import Crosscheck.Proofs.Directory
import Crosscheck.Proofs.Discovery
import Crosscheck.Proofs.Tally.Kinds
import Crosscheck.Proofs.Executable
import Crosscheck.Proofs.Text.Unescaped
import Crosscheck.Proofs.Transcript
import Crosscheck.Proofs.Evidence
import Crosscheck.Proofs.Delivery
import Crosscheck.Proofs.Excerpt
