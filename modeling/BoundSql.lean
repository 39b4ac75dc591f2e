import BoundSql.Query.Statement
import BoundSql.Predicate.Document
import BoundSql.Schema.Document
import BoundSql.Schema.Resolution
import BoundSql.Settings.Loader
import BoundSql.Proofs.Placeholders
import BoundSql.Proofs.Statements
import BoundSql.Proofs.Buffers
import BoundSql.Proofs.Reading
import BoundSql.Proofs.Meaning
import BoundSql.Proofs.Opacity
import BoundSql.Proofs.ReferenceChain
import BoundSql.Proofs.ReferenceCycle
import BoundSql.Proofs.Document
import BoundSql.Proofs.ColumnList
import BoundSql.Proofs.Unambiguity
import BoundSql.Proofs.FirstFault
import BoundSql.Proofs.DefaultMarks
import BoundSql.Proofs.ClauseOrder
import BoundSql.Proofs.Layering
import BoundSql.Proofs.SettledDocument
import BoundSql.Proofs.DatabaseLayers
import BoundSql.Proofs.SettingsLayers
import BoundSql.Proofs.Assignment
import BoundSql.Proofs.Composition
import BoundSql.Proofs.Accumulation
import BoundSql.Proofs.CompoundKey
import BoundSql.Proofs.NearestDouble
import BoundSql.Proofs.Entries
import BoundSql.Proofs.DocumentTree
import BoundSql.Proofs.FirstOccurrence
import BoundSql.Proofs.LayeredPath
import BoundSql.Proofs.ReferenceScope
import BoundSql.Proofs.Grammar
import BoundSql.Proofs.EmptyGroups
import BoundSql.Proofs.DescriptorFields
import BoundSql.Proofs.SchemaColumns
import BoundSql.Proofs.LastValue
import BoundSql.Proofs.LoadedRegistry
import BoundSql.Proofs.ClosingPosition
import BoundSql.Proofs.DescriptorDocument
import BoundSql.Proofs.Overrides
import BoundSql.Proofs.EditOrder
