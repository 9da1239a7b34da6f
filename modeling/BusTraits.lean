import BusTraits.Interface.Outline
import BusTraits.Trait.Outline
import BusTraits.Main
import BusTraits.Proofs.Identifier.Reserved
import BusTraits.Proofs.Identifier.Shape
import BusTraits.Proofs.Signature.Remarks
import BusTraits.Proofs.RustType.Collapse
import BusTraits.Proofs.Trait.WireName
import BusTraits.Proofs.Trait.Binding
import BusTraits.Proofs.Trait.Shape
import BusTraits.Proofs.Trait.Diagnosis
import BusTraits.Proofs.Trait.Content
import BusTraits.Proofs.Trait.Batch
import BusTraits.Proofs.Command.Delivery
import BusTraits.Proofs.Command.Session
import BusTraits.Proofs.Trait.Independence
import BusTraits.Proofs.Trait.Reuse
import BusTraits.Proofs.Introspection.Written
import BusTraits.Proofs.Introspection.Validity
import BusTraits.Proofs.Command.Ending
import BusTraits.Proofs.Trait.FunctionLines
import BusTraits.Proofs.Signature.Viability
import BusTraits.Proofs.Introspection.Edits
import BusTraits.Proofs.Signature.Recovery
import BusTraits.Proofs.Trait.Comments
import BusTraits.Proofs.Identifier.Collision
import BusTraits.Proofs.Identifier.OnePass
import BusTraits.Proofs.Identifier.Settled
import BusTraits.Proofs.Trait.Renaming
import BusTraits.Proofs.Trait.Blocks
import BusTraits.Proofs.Trait.Trace
import BusTraits.Proofs.Command.Verbose
