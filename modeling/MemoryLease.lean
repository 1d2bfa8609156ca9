import MemoryLease.Contract.Builder
import MemoryLease.Session.Run
import MemoryLease.Proofs.Shape.Count
import MemoryLease.Proofs.Shape.Ranks
import MemoryLease.Proofs.Strides.Contiguity
import MemoryLease.Proofs.Negotiation.Addressing
import MemoryLease.Proofs.Lending.Account
import MemoryLease.Proofs.Lending.Outcome
import MemoryLease.Proofs.Session.Entries
import MemoryLease.Proofs.Session.Move
import MemoryLease.Proofs.Shape.Odometer
import MemoryLease.Proofs.Strides.Reach
import MemoryLease.Proofs.Tensor.Fits
import MemoryLease.Proofs.Session.Account
import MemoryLease.Proofs.Session.Sound
import MemoryLease.Proofs.Session.Steps
import MemoryLease.Proofs.Session.Ledger
import MemoryLease.Proofs.Tensor.Walk
import MemoryLease.Proofs.Lending.Acquiring
import MemoryLease.Proofs.Session.Holding
import MemoryLease.Proofs.Session.Poisoned
import MemoryLease.Proofs.Session.Foreign
import MemoryLease.Proofs.Session.Exclusive
import MemoryLease.Proofs.Buffer.Bytes
import MemoryLease.Proofs.Session.Edits
import MemoryLease.Proofs.Session.Contents
import MemoryLease.Proofs.Strides.Canonical
import MemoryLease.Proofs.Contract.Consistent
import MemoryLease.Proofs.Negotiation.Decision
import MemoryLease.Proofs.Session.Pointers
import MemoryLease.Proofs.Session.Failing
import MemoryLease.Proofs.Tensor.Reindexing
import MemoryLease.Proofs.Tensor.Writing
import MemoryLease.Proofs.Session.Handles
import MemoryLease.Proofs.Session.ReadOnly
import MemoryLease.Proofs.Negotiation.Easing
import MemoryLease.Proofs.Negotiation.EitherOrder
import MemoryLease.Proofs.Session.Indexing
import MemoryLease.Proofs.Tensor.Views
import MemoryLease.Proofs.Tensor.Storing
import MemoryLease.Proofs.Session.Listing
import MemoryLease.Proofs.Session.OutOfRange
import MemoryLease.Proofs.Session.LeftOut
import MemoryLease.Proofs.Session.Resizing
import MemoryLease.Proofs.Contract.Demands
import MemoryLease.Proofs.Tensor.Zeros
import MemoryLease.Proofs.Session.Stepping
import MemoryLease.Proofs.Region.Length
import MemoryLease.Proofs.Session.Keeping
