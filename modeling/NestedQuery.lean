import NestedQuery.Files.Tree
import NestedQuery.Main
import NestedQuery.Proofs.Naming
import NestedQuery.Proofs.Query.Assembly
import NestedQuery.Proofs.Query.Lockstep
import NestedQuery.Proofs.Query.Aliases
import NestedQuery.Proofs.Query.Presence
import NestedQuery.Proofs.SchemaDump.Scanning
import NestedQuery.Proofs.SchemaDump.Canonical
import NestedQuery.Proofs.SchemaDump.Parsing
import NestedQuery.Proofs.Catalog.Order
import NestedQuery.Proofs.SchemaDump.RoundTrip
import NestedQuery.Proofs.Catalog.Lookup
import NestedQuery.Proofs.Query.CatalogOrder
import NestedQuery.Proofs.Query.Exports
import NestedQuery.Proofs.SchemaDump.Nesting
import NestedQuery.Proofs.SchemaDump.TableEnd
import NestedQuery.Proofs.SchemaDump.KeyPlaces
import NestedQuery.Proofs.SchemaDump.Printing
import NestedQuery.Proofs.Catalog.Growth
import NestedQuery.Proofs.Document
import NestedQuery.Proofs.Query.Growth
import NestedQuery.Proofs.Catalog.Document
import NestedQuery.Proofs.SchemaDump.Changes
import NestedQuery.Proofs.Catalog.RoundTrip
import NestedQuery.Proofs.Text.CaseMap
import NestedQuery.Proofs.SchemaDump.Nameable
import NestedQuery.Proofs.Query.Distinct
import NestedQuery.Proofs.Text.Layout
import NestedQuery.Proofs.Query.Indentation
import NestedQuery.Proofs.SchemaDump.LetterCase
import NestedQuery.Proofs.Query.Quoting
import NestedQuery.Proofs.Query.Failure
import NestedQuery.Proofs.Query.Nullability
import NestedQuery.Proofs.Document.PrintedJson
import NestedQuery.Proofs.Spec.ReadBack
import NestedQuery.Proofs.Files.Tree
import NestedQuery.Proofs.CommandLine.SqlFiles
import NestedQuery.Proofs.Catalog.KeySearch
import NestedQuery.Proofs.Query.JsonColumns
import NestedQuery.Proofs.Query.Acceptance
import NestedQuery.Proofs.Catalog.CustomJoin
import NestedQuery.Proofs.SchemaDump.History
import NestedQuery.Proofs.SchemaDump.DumpedKeys
import NestedQuery.Proofs.SchemaDump.KeyNumbers
import NestedQuery.Proofs.SchemaDump.Redefinition
import NestedQuery.Proofs.Text.LowerLetters
import NestedQuery.Proofs.SchemaDump.TypeArguments
import NestedQuery.Proofs.SchemaDump.IndentedScan
import NestedQuery.Proofs.Query.AliasWords
import NestedQuery.Proofs.Query.DefaultOrder
import NestedQuery.Proofs.Query.SpecCase
import NestedQuery.Proofs.Text.Parens
import NestedQuery.Proofs.Query.Parens
import NestedQuery.Proofs.SchemaDump.Positions
import NestedQuery.Proofs.SchemaDump.Progress
import NestedQuery.Proofs.Catalog.Index
