import GrammarCheck.Command.Directory
import GrammarCheck.Main
import GrammarCheck.Proofs.Checking.Acceptance
import GrammarCheck.Proofs.Checking.FirstError
import GrammarCheck.Proofs.Lexing.Decomposition
import GrammarCheck.Proofs.Lexing.TokenPlaces
import GrammarCheck.Proofs.Checking.Stages
import GrammarCheck.Proofs.Receiving
import GrammarCheck.Proofs.Checking.Recording
import GrammarCheck.Proofs.Checking.Reports
import GrammarCheck.Proofs.Checking.Stopping
import GrammarCheck.Proofs.Chars.Decoding
import GrammarCheck.Proofs.Checking.Agreement
import GrammarCheck.Proofs.Checking.Refusal
import GrammarCheck.Proofs.Checking.Truncation
import GrammarCheck.Proofs.Checking.Layout
import GrammarCheck.Proofs.Checking.Joining
import GrammarCheck.Proofs.Checking.Nesting
import GrammarCheck.Proofs.Command.FilesInOrder
import GrammarCheck.Proofs.Checking.Relabelling
import GrammarCheck.Proofs.Checking.Lifetime
import GrammarCheck.Proofs.Lexing.Walking
import GrammarCheck.Proofs.Lexing.Exposing
import GrammarCheck.Proofs.Lexing.Retrying
import GrammarCheck.Proofs.Chars.FeedLines
import GrammarCheck.Proofs.Checking.Recognition
import GrammarCheck.Proofs.Lexing.Looking
import GrammarCheck.Proofs.Checking.Accounting
import GrammarCheck.Proofs.Lexing.Persisting
import GrammarCheck.Proofs.Chars.ByteLines
import GrammarCheck.Proofs.Chars.FailedReads
import GrammarCheck.Proofs.Checking.Lending
import GrammarCheck.Proofs.Checking.Productions
import GrammarCheck.Proofs.Checking.OutputLines
import GrammarCheck.Proofs.Checking.Depth
import GrammarCheck.Proofs.Checking.Trace
import GrammarCheck.Proofs.Checking.Progress
import GrammarCheck.Proofs.Lexing.Counters
import GrammarCheck.Proofs.Chars.Boundaries
