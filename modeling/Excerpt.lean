import Excerpt.Main
import Excerpt.Proofs.AddedBinding
import Excerpt.Proofs.Extraction
import Excerpt.Proofs.Isolation
import Excerpt.Proofs.Locality
import Excerpt.Proofs.Scan
import Excerpt.Proofs.Spans
import Excerpt.Proofs.Transparency
import Excerpt.Proofs.Walk
import Excerpt.Proofs.Completion
import Excerpt.Proofs.Escapes
import Excerpt.Proofs.WordStarts
import Excerpt.Proofs.Spellings
import Excerpt.Proofs.LongStatements
import Excerpt.Proofs.Continuity
import Excerpt.Proofs.Loops
import Excerpt.Proofs.ThrownVariables
import Excerpt.Proofs.Accessors
import Excerpt.Proofs.Lines
import Excerpt.Proofs.Javadoc
import Excerpt.Proofs.Decoration
import Excerpt.Proofs.RequestPaths
import Excerpt.Proofs.TextBlocks
import Excerpt.Proofs.CsvRules
import Excerpt.Proofs.StrictScopes
import Excerpt.Proofs.ScopeUnions
import Excerpt.Proofs.Paths
import Excerpt.Proofs.TrailingComments
import Excerpt.Proofs.SearchedVariables
import Excerpt.Proofs.OwningStatements
import Excerpt.Proofs.Collection
import Excerpt.Proofs.Delimiters
import Excerpt.Proofs.QualifiedTypes
import Excerpt.Proofs.JsonReading
import Excerpt.Proofs.Tally
import Excerpt.Proofs.ThreadNames
import Excerpt.Proofs.Writing
import Excerpt.Proofs.Commands
