import AccessLayer.Main
import AccessLayer.Proofs.Artifact.Binding
import AccessLayer.Proofs.Artifact.Refinement
import AccessLayer.Proofs.Blueprint.Coherence
import AccessLayer.Proofs.Blueprint.Identifiers
import AccessLayer.Proofs.Run.Cancellation
import AccessLayer.Proofs.Run.Distinct
import AccessLayer.Proofs.Run.DryRun
import AccessLayer.Proofs.Run.Trace
import AccessLayer.Proofs.Schema.Independence
import AccessLayer.Proofs.Schema.RoundTrip
import AccessLayer.Proofs.Schema.Transparency
import AccessLayer.Proofs.Files.Agreement
import AccessLayer.Proofs.Run.Repeat
import AccessLayer.Proofs.Blueprint.Parameters
import AccessLayer.Proofs.Artifact.Named
import AccessLayer.Proofs.Artifact.Declared
import AccessLayer.Proofs.Artifact.Needs
import AccessLayer.Proofs.Artifact.References
import AccessLayer.Proofs.Artifact.Single
import AccessLayer.Proofs.Blueprint.Optionality
import AccessLayer.Proofs.Blueprint.Exchange
import AccessLayer.Proofs.Inspect.Key
import AccessLayer.Proofs.Schema.LineEnding
import AccessLayer.Proofs.Registry.History
import AccessLayer.Proofs.CommandLine.Schema
import AccessLayer.Proofs.CommandLine.Exit
import AccessLayer.Proofs.CommandLine.Supply
import AccessLayer.Proofs.Inspect.Lossless
import AccessLayer.Proofs.Schema.Lines
import AccessLayer.Proofs.Schema.Cut
import AccessLayer.Proofs.Blueprint.Search
import AccessLayer.Proofs.Language.TypeName
