import Abacus.Main
import Abacus.Proofs.Sentence.Reading
import Abacus.Sentence
import Abacus.Substitution
import Abacus.Token.Balance
import Abacus.Token.Field
import Abacus.Token.Spelling
import Abacus.Tree.Meaning
import Abacus.Proofs.Token.Scan
import Abacus.Proofs.Tree.Value
import Abacus.Proofs.Substitution
import Abacus.Proofs.Postfix.Balance
import Abacus.Proofs.Sentence.Alternation
import Abacus.Proofs.Tree.Height
import Abacus.Proofs.Acceptance
import Abacus.Proofs.Batch.Accounted
import Abacus.Proofs.Batch.Ending
import Abacus.Proofs.Batch.Refused
import Abacus.Proofs.Token.Spelling
import Abacus.Proofs.Token.Keys
import Abacus.Proofs.Tree.Malformed
import Abacus.Proofs.Errors
import Abacus.Proofs.Tree.Printed
import Abacus.Proofs.Tree.Traversal
import Abacus.Proofs.Postfix.Verdict
import Abacus.Proofs.Postfix.Group
import Abacus.Proofs.Tree.Calls
import Abacus.Proofs.Tree.Inorder
import Abacus.Proofs.Solver.Choices
import Abacus.Proofs.Solver.Side
import Abacus.Proofs.Numbers
import Abacus.Proofs.Arguments
import Abacus.Proofs.Exit
import Abacus.Proofs.Solver.Search
import Abacus.Proofs.Solver.First
import Abacus.Proofs.Solver.Candidates
import Abacus.Proofs.Solver.Ending
import Abacus.Proofs.Relevance
import Abacus.Config.Session
import Abacus.Proofs.Config.Record
import Abacus.Proofs.Config.Session
import Abacus.Proofs.Config.Steps
import Abacus.Proofs.Text.Lines
import Abacus.Proofs.Text.Utf8
import Abacus.Proofs.Batch.Rendering
import Abacus.Proofs.Batch.Results
import Abacus.Proofs.Batch.Loading
import Abacus.Proofs.FileTree
import Abacus.Proofs.Batch.Naming
import Abacus.Proofs.Batch.Numbering
import Abacus.Proofs.Batch.Unambiguous
import Abacus.Proofs.Batch.Unpacking
import Abacus.Proofs.Batch.Unread
import Abacus.Proofs.Assignments
