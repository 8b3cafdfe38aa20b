import AdaptiveAdd.Program.Reference
import AdaptiveAdd.Program.Run
import AdaptiveAdd.Value.Stored
import AdaptiveAdd.Proofs.Combination
import AdaptiveAdd.Proofs.Commitment
import AdaptiveAdd.Proofs.Outcome
import AdaptiveAdd.Proofs.Agreement
import AdaptiveAdd.Proofs.Lockstep
import AdaptiveAdd.Proofs.Learning
import AdaptiveAdd.Proofs.Accounting
import AdaptiveAdd.Proofs.Ascent
import AdaptiveAdd.Proofs.Meaning
import AdaptiveAdd.Proofs.Transparency
import AdaptiveAdd.Proofs.Redispatch
import AdaptiveAdd.Proofs.Failures
import AdaptiveAdd.Proofs.OperandOrder
import AdaptiveAdd.Proofs.Chaining
import AdaptiveAdd.Proofs.Equality
import AdaptiveAdd.Proofs.Quoting
import AdaptiveAdd.Proofs.DebugText
import AdaptiveAdd.Proofs.Widening
import AdaptiveAdd.Proofs.Setting
import AdaptiveAdd.Proofs.PositionText
import AdaptiveAdd.Proofs.WordArithmetic
