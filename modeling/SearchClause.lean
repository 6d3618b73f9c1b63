import SearchClause.Main
import SearchClause.Query.Printer
import SearchClause.Proofs.Reading
import SearchClause.Proofs.Grammar
import SearchClause.Proofs.RoundTrip
import SearchClause.Proofs.Quotes
import SearchClause.Proofs.CanonicalForm
import SearchClause.Proofs.Condition
import SearchClause.Proofs.ConditionText
import SearchClause.Proofs.FragmentMeaning
import SearchClause.Proofs.Numbering
import SearchClause.Proofs.FragmentShape
import SearchClause.Proofs.Reread
import SearchClause.Proofs.Seams
import SearchClause.Proofs.Composition
import SearchClause.Proofs.Phrases
import SearchClause.Proofs.Spacing
import SearchClause.Proofs.Reload
import SearchClause.Proofs.CanonicalPrint
import SearchClause.Proofs.RootFile
import SearchClause.Proofs.NewFile
import SearchClause.Proofs.StarterFile
import SearchClause.Proofs.FlatMeaning
import SearchClause.Proofs.FlatReading
import SearchClause.Proofs.CommonQueries
import SearchClause.Proofs.Nesting
import SearchClause.Proofs.Limits
import SearchClause.Proofs.Failures
import SearchClause.Proofs.Reports
import SearchClause.Proofs.Ancestors
import SearchClause.Proofs.RelevantFiles
import SearchClause.Proofs.Placeholders
import SearchClause.Proofs.Separators
import SearchClause.Proofs.FlatPrint
import SearchClause.Proofs.FlatContent
import SearchClause.Proofs.FlatNormalForm
import SearchClause.Proofs.TypedTerms
import SearchClause.Proofs.CleanSettings
import SearchClause.Proofs.Sanitizing
import SearchClause.Proofs.OutlineReading
import SearchClause.Proofs.CommentedOut
import SearchClause.Proofs.ConfinedArguments
