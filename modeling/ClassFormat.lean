import ClassFormat.CompiledClass.Edit
import ClassFormat.CompiledClass.Listing
import ClassFormat.Journal
import ClassFormat.Stream
import ClassFormat.Types.ResolvedType
import ClassFormat.Proofs.Binary.Output
import ClassFormat.Proofs.Binary.Reading
import ClassFormat.Proofs.Pool.Resolution
import ClassFormat.Proofs.Pool.Walk
import ClassFormat.Proofs.Attribute.Binary
import ClassFormat.Proofs.Pool.Binary
import ClassFormat.Proofs.Member
import ClassFormat.Proofs.CompiledClass.WellFormed
import ClassFormat.Proofs.CompiledClass.RoundTrip
import ClassFormat.Proofs.CompiledClass.EditRuns
import ClassFormat.Proofs.CompiledClass.Downgrade
import ClassFormat.Proofs.CompiledClass.VersionRuns
import ClassFormat.Proofs.CompiledClass.VersionChange
import ClassFormat.Proofs.CompiledClass.ChangeInPlace
import ClassFormat.Proofs.Text.Segments
import ClassFormat.Proofs.Types.Grammar
import ClassFormat.Proofs.Types.Offsets
import ClassFormat.Proofs.Types.Descriptions
import ClassFormat.Proofs.Types.Completion
import ClassFormat.Proofs.Types.Paths
import ClassFormat.Proofs.Types.Spellings
import ClassFormat.Proofs.Types.NativeName
import ClassFormat.Proofs.Text.Groups
import ClassFormat.Proofs.Text.Utf16
import ClassFormat.Proofs.Text.ModifiedUtf8
import ClassFormat.Proofs.Text.Readings
import ClassFormat.Proofs.Text.IllFormed
import ClassFormat.Proofs.Pool.Interning
import ClassFormat.Proofs.CompiledClass.Renaming
import ClassFormat.Proofs.Types.Projection
import ClassFormat.Proofs.Types.Resolution
import ClassFormat.Proofs.Types.Layers
import ClassFormat.Proofs.Types.ClassFiles
import ClassFormat.Proofs.Types.SameType
import ClassFormat.Proofs.CompiledClass.FailedRenaming
import ClassFormat.Proofs.Binary.Faults
import ClassFormat.Proofs.Attribute.Faults
import ClassFormat.Proofs.Pool.Straddling
import ClassFormat.Proofs.CompiledClass.Faults
import ClassFormat.Proofs.Binary.Extents
import ClassFormat.Proofs.Attribute.Extents
import ClassFormat.Proofs.CompiledClass.Extents
import ClassFormat.Proofs.Attribute.Dispatch
import ClassFormat.Proofs.CompiledClass.RequestedName
import ClassFormat.Proofs.CompiledClass.LookUp
import ClassFormat.Proofs.CompiledClass.ReportedFaults
import ClassFormat.Proofs.Attribute.Nesting
import ClassFormat.Proofs.Types.Guards
