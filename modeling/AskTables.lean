import AskTables.Dataset.Reader
import AskTables.Dataset.Sample
import AskTables.Journal.Basic
import AskTables.Journal.Trail
import AskTables.Settings.Load
import AskTables.Statement.Reader
import AskTables.Proofs.Dataset.RoundTrip
import AskTables.Proofs.Decimal.Longest
import AskTables.Proofs.Grammar.JoinWord
import AskTables.Proofs.Grammar.Position
import AskTables.Proofs.Guard.Update
import AskTables.Proofs.Phrase.Reserved
import AskTables.Proofs.Phrase.Winner
import AskTables.Proofs.Query.Equal
import AskTables.Proofs.Query.Exclusive
import AskTables.Proofs.Query.Filtered
import AskTables.Proofs.Query.Grouped
import AskTables.Proofs.Query.Like
import AskTables.Proofs.Query.Selected
import AskTables.Proofs.Query.Sorted
import AskTables.Proofs.Service.Run
import AskTables.Proofs.Statement.RoundTrip
