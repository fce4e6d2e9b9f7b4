import PatternNfa.Grammar
import PatternNfa.Main
import PatternNfa.Predicate.Survey
import PatternNfa.Proofs.Fragments
import PatternNfa.Proofs.LiveStates
import PatternNfa.Proofs.Quantifiers
import PatternNfa.Session
import PatternNfa.Proofs.FragmentLanguages
import PatternNfa.Proofs.Building
import PatternNfa.Proofs.BuiltAutomata
import PatternNfa.Proofs.OperatorOrder
import PatternNfa.Proofs.PatternLanguage
import PatternNfa.Proofs.OperandCount
import PatternNfa.Proofs.SharedBuffers
import PatternNfa.Proofs.CaseFolding
import PatternNfa.Proofs.Composition
import PatternNfa.Proofs.Decomposition
import PatternNfa.Proofs.Rendering
import PatternNfa.Proofs.Counting
import PatternNfa.Proofs.CacheHistory
import PatternNfa.Proofs.SessionHistory
import PatternNfa.Proofs.Culprits
import PatternNfa.Proofs.QuantifierRuns
import PatternNfa.Proofs.Draining
import PatternNfa.Proofs.ViablePrefixes
import PatternNfa.Nfa.Assembly
import PatternNfa.Proofs.Partition
import PatternNfa.Proofs.Rooting
import PatternNfa.Proofs.StackedQuantifiers
import PatternNfa.Proofs.SilentReach
import PatternNfa.Proofs.SparseHistory
import PatternNfa.Nfa.Stepwise
import PatternNfa.Proofs.StateCount
import PatternNfa.Proofs.OperandDepth
import PatternNfa.Proofs.Unambiguity
import PatternNfa.ReversePolish.TokenYard
import PatternNfa.Proofs.HeldTokens
import PatternNfa.Scanner
import PatternNfa.Proofs.Placement
import PatternNfa.Proofs.Commands
