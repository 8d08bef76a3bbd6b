import Reckon.LanguageServer
import Reckon.Main
import Reckon.Proofs.Arrangement.Earliest
import Reckon.Proofs.Arrangement.Juxtaposition
import Reckon.Proofs.Arrangement.Respacing
import Reckon.Proofs.Binary64.Signs
import Reckon.Proofs.CommandLine.Streams
import Reckon.Proofs.Display
import Reckon.Proofs.Document
import Reckon.Proofs.Evaluation
import Reckon.Proofs.Expr.Substitution
import Reckon.Proofs.Expr.Unchecked
import Reckon.Proofs.Expr.Walk
import Reckon.Proofs.LanguageServer
import Reckon.Proofs.LanguageServer.Numbering
import Reckon.Proofs.Lexer.Beginning
import Reckon.Proofs.Lexer.Outcome
import Reckon.Proofs.Lexer.Positions
import Reckon.Proofs.Lexer.RoundTrip
import Reckon.Proofs.Lexer.RuleOrder
import Reckon.Proofs.Lexer.Stray
import Reckon.Proofs.LineResults
import Reckon.Proofs.Rejection.Place
import Reckon.Proofs.Rejection.Rows
import Reckon.Proofs.Rejection.Snippet
import Reckon.Proofs.Respacing
import Reckon.Proofs.Cursor
import Reckon.Proofs.Rejection.Alignment
import Reckon.Proofs.Decimal.Shortest
import Reckon.Proofs.Expr.Outline
