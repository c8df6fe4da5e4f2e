import DataShape.Capability.Custom
import DataShape.Main
import DataShape.Proofs.Alternatives
import DataShape.Proofs.Conformance
import DataShape.Proofs.EntryOrder
import DataShape.Proofs.ExitCode
import DataShape.Proofs.Extension
import DataShape.Proofs.LastWrite
import DataShape.Proofs.Matching
import DataShape.Proofs.Options
import DataShape.Proofs.Rejection
import DataShape.Proofs.Relaxation
import DataShape.Proofs.Reload
import DataShape.Proofs.Rerooting
import DataShape.Proofs.Settings
import DataShape.Proofs.Spelling
