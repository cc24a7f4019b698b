import SenderPolicy.Main
import SenderPolicy.Zone
import SenderPolicy.Proofs.Acyclic
import SenderPolicy.Proofs.Canonical
import SenderPolicy.Proofs.Decision
import SenderPolicy.Proofs.Observation
import SenderPolicy.Proofs.Spelling
import SenderPolicy.Proofs.Root
import SenderPolicy.Proofs.Bare
import SenderPolicy.Proofs.Amplification
import SenderPolicy.Proofs.CommandLine
import SenderPolicy.Proofs.Batch
import SenderPolicy.Proofs.ShortCircuit
import SenderPolicy.Proofs.Mapped
import SenderPolicy.Proofs.Containment
import SenderPolicy.Proofs.Serialization
import SenderPolicy.Proofs.Expansion
import SenderPolicy.Proofs.Family
import SenderPolicy.Proofs.NormalForm
import SenderPolicy.Proofs.Pieces
