import GrammarEmbed.Main
import GrammarEmbed.Proofs.ConfigLiteral
import GrammarEmbed.Proofs.ClassUpdate
import GrammarEmbed.Proofs.InjectionReport
import GrammarEmbed.Proofs.RecordedRun
import GrammarEmbed.Proofs.RepeatedRun
import GrammarEmbed.Proofs.Untouched
import GrammarEmbed.Proofs.LastDefinition
import GrammarEmbed.Proofs.OwnGrammar
import GrammarEmbed.Proofs.ClassWalkers
import GrammarEmbed.Proofs.ExtractedGrammars
import GrammarEmbed.Proofs.Identifiers
import GrammarEmbed.Proofs.StructuralBinding
import GrammarEmbed.Proofs.ExactGate
import GrammarEmbed.Proofs.DerivedClone
import GrammarEmbed.Proofs.EscapeReading
import GrammarEmbed.Proofs.LiteralReading
import GrammarEmbed.Proofs.WrittenJson
import GrammarEmbed.Proofs.EmbeddedText
import GrammarEmbed.Proofs.PolicyRuns
import GrammarEmbed.Proofs.Bookkeeping
import GrammarEmbed.Proofs.CommentSlots
import GrammarEmbed.Proofs.ProgramSlots
import GrammarEmbed.Proofs.LostComments
import GrammarEmbed.Proofs.PathNames
import GrammarEmbed.Proofs.TreeEntries
import GrammarEmbed.Proofs.MadeDirectories
import GrammarEmbed.Proofs.Deliveries
import GrammarEmbed.Proofs.SourceWalk
import GrammarEmbed.Proofs.TreeRuns
import GrammarEmbed.Proofs.MirroredTree
import GrammarEmbed.Proofs.DirectoryRun
import GrammarEmbed.Proofs.InjectionVerdict
import GrammarEmbed.Proofs.LocalInjection
import GrammarEmbed.Proofs.DisjointGrammars
import GrammarEmbed.Proofs.FieldOrder
import GrammarEmbed.Proofs.ReportReading
import GrammarEmbed.Proofs.ReplayedReport
import GrammarEmbed.Proofs.AuthoredProperty
import GrammarEmbed.Proofs.StrayCharacters
import GrammarEmbed.Proofs.WordReading
import GrammarEmbed.Proofs.RepeatedFields
import GrammarEmbed.Proofs.ConfigReading
import GrammarEmbed.Proofs.AcceptedNames
import GrammarEmbed.Proofs.References
import GrammarEmbed.Proofs.InjectedNames
import GrammarEmbed.Proofs.WalkCourse
import GrammarEmbed.Proofs.OriginalSources
import GrammarEmbed.Proofs.FileJournal
import GrammarEmbed.Proofs.CourseRuns
import GrammarEmbed.Proofs.ConsumedOutput
import GrammarEmbed.Ast.Cleared
import GrammarEmbed.Proofs.BareLayouts
import GrammarEmbed.Proofs.DetachedText
import GrammarEmbed.Proofs.ClearedPrograms
