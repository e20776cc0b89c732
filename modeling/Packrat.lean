import Packrat.Action
import Packrat.Proofs.Arithmetic
import Packrat.Proofs.Deepest
import Packrat.Proofs.DepthBound
import Packrat.Proofs.Desugar
import Packrat.Proofs.Integers
import Packrat.Proofs.Limit
import Packrat.Proofs.LineBreaks
import Packrat.Proofs.Naming
import Packrat.Proofs.Numbers
import Packrat.Proofs.Once
import Packrat.Proofs.Outcome
import Packrat.Proofs.Parentheses
import Packrat.Proofs.PegRun
import Packrat.Proofs.Pointer
import Packrat.Proofs.Quoted
import Packrat.Proofs.RegexModes
import Packrat.Proofs.Regroup
import Packrat.Proofs.Sharing
import Packrat.Proofs.ShiftRun
import Packrat.Proofs.TruthfulLog
