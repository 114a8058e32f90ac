import RecordSchema.Definition.Printer
import RecordSchema.Files.Tree
import RecordSchema.Main
import RecordSchema.Proofs.Registry.Inheritance
import RecordSchema.Proofs.Registry.Recursion
import RecordSchema.Proofs.Validation.Embedded
import RecordSchema.Proofs.Validation.Nulls
import RecordSchema.Proofs.Validation.Sets
import RecordSchema.Proofs.Validation.Locations
import RecordSchema.Proofs.Validation.Settling
import RecordSchema.Proofs.Validation.Standalone
import RecordSchema.Proofs.Validation.Reporting
import RecordSchema.Proofs.Validation.Decomposition
import RecordSchema.Proofs.Registry.IndexFlags
import RecordSchema.Proofs.Registry.Conflicts
import RecordSchema.Proofs.Registry.ClosedLinks
import RecordSchema.Proofs.Registry.Graph
import RecordSchema.Proofs.Registry.Partition
import RecordSchema.Proofs.Registry.Carrier
import RecordSchema.Proofs.Registry.Endpoints
import RecordSchema.Proofs.Definition.RoundTrip
import RecordSchema.Proofs.Validation.Required
import RecordSchema.Proofs.Registry.OwnProperties
import RecordSchema.Proofs.Hierarchy.Acyclic
import RecordSchema.Proofs.Hierarchy.Preorder
import RecordSchema.Proofs.Validation.Termination
import RecordSchema.Proofs.Validation.Restriction
import RecordSchema.Proofs.Validation.Omission
import RecordSchema.Proofs.Cast.Integer
import RecordSchema.Proofs.Definition.Loading
import RecordSchema.Proofs.Log.Entry
import RecordSchema.Proofs.Cast.Words
import RecordSchema.Proofs.Cast.Collection
import RecordSchema.Proofs.Validation.Paths
