import SchemaSource.Command.Fault
import SchemaSource.Main
import SchemaSource.Proofs.Layout
import SchemaSource.Session
import SchemaSource.Value.Equality
import SchemaSource.Storage.Machine
import SchemaSource.Proofs.IntegerText
import SchemaSource.Proofs.Schema
import SchemaSource.Proofs.Constraints
import SchemaSource.Proofs.Nodes
import SchemaSource.Proofs.Template
import SchemaSource.Proofs.Views
import SchemaSource.Proofs.Agreement
import SchemaSource.Proofs.Bounds
import SchemaSource.Proofs.CallText
import SchemaSource.Proofs.Readback
import SchemaSource.Proofs.ModuleText
import SchemaSource.Proofs.Children
import SchemaSource.Proofs.Visits
import SchemaSource.Proofs.Faults
import SchemaSource.Proofs.Callbacks
import SchemaSource.Proofs.Freshness
import SchemaSource.Proofs.SnapshotForm
import SchemaSource.Proofs.ShapeNames
import SchemaSource.Proofs.Lineage
import SchemaSource.Proofs.LexicalForm
import SchemaSource.Proofs.Locality
import SchemaSource.Proofs.NumeralText
import SchemaSource.Proofs.InclusiveBounds
import SchemaSource.Proofs.FileSafety
import SchemaSource.Proofs.Rounding
import SchemaSource.Proofs.ShortestDigits
import SchemaSource.Proofs.Script
import SchemaSource.Proofs.ScriptReading
import SchemaSource.Proofs.NumberLiteral
import SchemaSource.Proofs.LegalNumerals
import SchemaSource.Proofs.InlinedValues
import SchemaSource.Proofs.CivilTime
import SchemaSource.Proofs.FixedDigits
import SchemaSource.Proofs.DateReading
import SchemaSource.Proofs.CivilText
import SchemaSource.Proofs.DateBounds
import SchemaSource.Proofs.DateSpellings
import SchemaSource.Proofs.IntegerSpellings
import SchemaSource.Proofs.Recognition
import SchemaSource.Proofs.Normalization
import SchemaSource.Proofs.SizeBounds
import SchemaSource.Proofs.SnapshotFaults
import SchemaSource.Proofs.Headers
import SchemaSource.Proofs.Selection
import SchemaSource.Proofs.EnumTables
import SchemaSource.Proofs.Declarations
