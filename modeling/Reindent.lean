import Reindent.Main
import Reindent.Proofs.Blanks
import Reindent.Proofs.Locality
import Reindent.Proofs.Writing
import Reindent.Proofs.Idempotence
import Reindent.Proofs.Relexing
import Reindent.Proofs.LeadingBlanks
import Reindent.Proofs.Stability
import Reindent.Proofs.DefaultRules
import Reindent.Proofs.Structure
import Reindent.Proofs.Segments
import Reindent.Proofs.BlockStack
import Reindent.Proofs.Columns
import Reindent.Proofs.KeywordPrograms
import Reindent.Proofs.Nesting
import Reindent.Proofs.Frame
import Reindent.Proofs.BracketStack
import Reindent.Proofs.Veiling
import Reindent.Proofs.VeiledMatches
import Reindent.Proofs.VeiledLines
import Reindent.Proofs.VeiledDocuments
import Reindent.Proofs.Comments
import Reindent.Proofs.HereDocuments
import Reindent.Proofs.Extension
import Reindent.Proofs.Insertion
import Reindent.Proofs.Configuration
import Reindent.Proofs.Runs
import Reindent.Proofs.Output
import Reindent.Proofs.Offsets
import Reindent.Proofs.OpenBrackets
import Reindent.Proofs.BracketPlacement
import Reindent.Proofs.WrappedStatements
import Reindent.Proofs.LeadingWords
import Reindent.Proofs.StatementEnds
import Reindent.Proofs.HangingBrackets
import Reindent.Proofs.DisturbedLines
import Reindent.Proofs.HereDocumentQueue
import Reindent.Proofs.QuotedLiterals
import Reindent.Proofs.TrailingOperators
import Reindent.Proofs.RowShapes
import Reindent.Proofs.Terminators
import Reindent.Proofs.Overflow
import Reindent.Proofs.ExactIndents
import Reindent.Proofs.CheckedLiterals
import Reindent.Proofs.IndexedScan
