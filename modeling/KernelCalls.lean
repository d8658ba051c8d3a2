import KernelCalls.Main
import KernelCalls.Proofs.Catalog.History
import KernelCalls.Proofs.Conversion
import KernelCalls.Proofs.Mangling.Grammar
import KernelCalls.Proofs.Mangling.RoundTrip
import KernelCalls.Proofs.Mangling.Sound
import KernelCalls.Proofs.Action
import KernelCalls.Proofs.Catalog.Reported
import KernelCalls.Proofs.CommandLine
import KernelCalls.Proofs.Registry.Interleaving
import KernelCalls.Proofs.Registry.Sharing
import KernelCalls.Proofs.Registry.Session
import KernelCalls.Proofs.Registry.Default
import KernelCalls.Proofs.Mangling.Limits
import KernelCalls.Proofs.Mangling.Orderly
import KernelCalls.Proofs.Recognition
import KernelCalls.Proofs.Registry.Answering
import KernelCalls.Proofs.Catalog.Reordering
import KernelCalls.Proofs.Widening
import KernelCalls.Proofs.Catalog.Unambiguous
import KernelCalls.Proofs.Settings
import KernelCalls.Proofs.Options.TwoPasses
