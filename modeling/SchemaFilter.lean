import SchemaFilter.Filter.Meaning
import SchemaFilter.Filter.Typed
import SchemaFilter.Main
import SchemaFilter.Proofs.Filter.Blame
import SchemaFilter.Proofs.Filter.Grammar
import SchemaFilter.Proofs.Filter.RoundTrip
import SchemaFilter.Proofs.Query.HiddenFields
import SchemaFilter.Proofs.Query.ReachedPatterns
import SchemaFilter.Proofs.Query.SameSelection
import SchemaFilter.Proofs.Query.Skeleton
import SchemaFilter.Proofs.Query.PlainConditions
import SchemaFilter.Proofs.Repository
import SchemaFilter.Proofs.Command.Agreement
import SchemaFilter.Proofs.Config.QuotedText
import SchemaFilter.Proofs.Config.WrittenFile
import SchemaFilter.Proofs.Command.History
import SchemaFilter.Proofs.Filter.TreeOrder
import SchemaFilter.Proofs.Query.Refusals
import SchemaFilter.Proofs.Filter.FaultPaths
import SchemaFilter.Proofs.Query.Wildcards
import SchemaFilter.Proofs.Schema.Printed
import SchemaFilter.Proofs.Query.WellFormed
import SchemaFilter.Proofs.Query.Comparisons
import SchemaFilter.Proofs.Query.Integers
import SchemaFilter.Proofs.Schema.Hints
import SchemaFilter.Proofs.Query.LiteralPatterns
import SchemaFilter.Proofs.Query.ConditionFree
import SchemaFilter.Proofs.Schema.CaseVariants
import SchemaFilter.Proofs.Report.TableLines
import SchemaFilter.Proofs.Report.Alignment
import SchemaFilter.Proofs.Report.Formats
import SchemaFilter.Proofs.Report.Columns
