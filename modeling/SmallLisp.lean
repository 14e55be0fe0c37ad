import SmallLisp.Main
import SmallLisp.Meaning
import SmallLisp.Proofs.LocalDefinitions
import SmallLisp.Proofs.RoundTrip
import SmallLisp.Proofs.ScopeChains
import SmallLisp.Proofs.SpecialNames
import SmallLisp.Proofs.PromptLoop
import SmallLisp.Proofs.Runners
import SmallLisp.Proofs.Builtin.Results
import SmallLisp.Proofs.Programs
import SmallLisp.Proofs.Containment
import SmallLisp.Proofs.PromptErrors
import SmallLisp.Proofs.ArgumentOrder
import SmallLisp.Proofs.FirstForm
import SmallLisp.Proofs.Gathering
import SmallLisp.Proofs.SplitPrograms
import SmallLisp.Proofs.Placeholders
import SmallLisp.Proofs.Token.Lexemes
import SmallLisp.Proofs.OneForm
import SmallLisp.Proofs.IntegerLiteral
import SmallLisp.Proofs.Room
import SmallLisp.Proofs.FunctionText
import SmallLisp.Proofs.Store.Bindings
import SmallLisp.Proofs.Store.Trace
import SmallLisp.Proofs.LineGroups
import SmallLisp.Proofs.VerboseRuns
