import MemoryLease.Contract.Basic

/-!
# Contracts from demands

A contract can be composed from demands on the axes.  A later demand on an axis replaces an earlier
one, and a contract that asks for an order gets strides, whatever metadata was asked for: so what
`Contract.ofDemands` builds is always consistent.  The draft is a `ContractBuilder`, and its methods
are the demands.
-/

namespace MemoryLease
namespace Contract

/-- One demand on a contract under construction. -/
inductive Demand where
  /-- Access for writing. -/
  | writable
  /-- The format code. -/
  | format
  /-- A contiguity, in place of any demanded before. -/
  | contiguity (contiguity : Contiguity)
  /-- A level of metadata, in place of any demanded before. -/
  | metadata (metadata : Metadata)
deriving DecidableEq

/-- The axes of a contract under construction (`ContractBuilder`). -/
structure Draft where
  /-- Access for writing. -/
  writable : Bool := false
  /-- The format code. -/
  format : Bool := false
  /-- The contiguity demanded last. -/
  contiguity : Contiguity := .unspecified
  /-- The metadata demanded last. -/
  metadata : Metadata := .flat
deriving DecidableEq

namespace Draft

/-- A draft with one more demand. -/
def demand (d : Draft) : Demand → Draft
  | .writable => { d with writable := true }
  | .format => { d with format := true }
  | .contiguity c => { d with contiguity := c }
  | .metadata m => { d with metadata := m }

/-- The metadata of the finished contract: at least strides if an order is asked for. -/
def finalMetadata (d : Draft) : Metadata :=
  if d.contiguity = .unspecified then d.metadata else d.metadata.max .strides

/-- The flags of a level of metadata. -/
def metadataFlags : Metadata → List Flag
  | .flat => []
  | .extents => [.extents]
  | .strides => [.strides, .extents]
  | .indirect => [.suboffsets, .strides, .extents]

/-- The flags of a contiguity. -/
def contiguityFlags : Contiguity → List Flag
  | .unspecified => []
  | .rowMajor => [.rowMajor]
  | .columnMajor => [.columnMajor]
  | .either => [.anyOrder]

/-- The contract of a draft (`ContractBuilder.build`). -/
def contract (d : Draft) : Contract :=
  ofFlags (metadataFlags d.finalMetadata ++ contiguityFlags d.contiguity ++
    (if d.writable then [.writable] else []) ++ if d.format then [.format] else [])

/-- The draft that repeats the axes of a contract. -/
def ofContract (c : Contract) : Draft :=
  ⟨c.isWritable, c.wantsFormat, c.contiguity, c.metadata⟩

end Draft

/-- The contract that meets a list of demands, made in order. -/
def ofDemands (demands : List Demand) : Contract :=
  (demands.foldl Draft.demand {}).contract

end Contract
end MemoryLease
