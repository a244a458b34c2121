import MailSearch.Main
import MailSearch.Proofs.Calendar.Literal
import MailSearch.Proofs.Console.Figures
import MailSearch.Proofs.Console.Refinement
import MailSearch.Proofs.EditSequence
import MailSearch.Proofs.History.Loading
import MailSearch.Proofs.Index.Acceptance
import MailSearch.Proofs.Index.Arrival
import MailSearch.Proofs.Index.Figures
import MailSearch.Proofs.Index.Undo
import MailSearch.Proofs.Query.Round
import MailSearch.Proofs.Record.Projection
import MailSearch.Proofs.SavedSearches
import MailSearch.Proofs.Search.Fuzziness
import MailSearch.Proofs.Search.Misspelling
import MailSearch.Proofs.Search.Narrowing
import MailSearch.Proofs.Service.Announcement
import MailSearch.Proofs.Session.Answers
import MailSearch.Proofs.Snapshot.Figures
import MailSearch.Proofs.Tokenization
import MailSearch.Proofs.Query.Round
