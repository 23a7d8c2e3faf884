import MiniLisp.Cursor.Lemmas
import MiniLisp.Cursor.Script
import MiniLisp.Main
import MiniLisp.Proofs.AgreeingScopes
import MiniLisp.Proofs.CallEvents
import MiniLisp.Proofs.ContinuedTexts
import MiniLisp.Proofs.CursorTape
import MiniLisp.Proofs.EagerCursor
import MiniLisp.Proofs.EvaluationLevels
import MiniLisp.Proofs.FailureCauses
import MiniLisp.Proofs.FlattenedTrees
import MiniLisp.Proofs.GatheredDigits
import MiniLisp.Proofs.IndependentExpressions
import MiniLisp.Proofs.NumberGrammar
import MiniLisp.Proofs.ParenthesisBalance
import MiniLisp.Proofs.PureExpressions
import MiniLisp.Proofs.RenamedEvaluation
import MiniLisp.Proofs.RepeatedEvaluation
import MiniLisp.Proofs.ScopeHistory
import MiniLisp.Proofs.ArgumentWords
import MiniLisp.Proofs.SessionHistory
import MiniLisp.Proofs.TokenLayout
import MiniLisp.Proofs.ValueOrigin
import MiniLisp.Proofs.WrittenExpressions
import MiniLisp.Proofs.SessionHistory
