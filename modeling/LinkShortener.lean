import LinkShortener.Http.Server
import LinkShortener.Main
import LinkShortener.Operator.Serving
import LinkShortener.Operator.Session
import LinkShortener.Retry.Script
import LinkShortener.Store.Seeding
import LinkShortener.Proofs.Ledger.Reservation
import LinkShortener.Proofs.Store.Creation
import LinkShortener.Proofs.Store.Soundness
import LinkShortener.Proofs.Retry.Reasoning
import LinkShortener.Proofs.Store.Transactions
import LinkShortener.Proofs.Service.Creation
import LinkShortener.Proofs.Slug.Generation
import LinkShortener.Proofs.Text.Trimming
import LinkShortener.Proofs.Service.History
import LinkShortener.Proofs.Service.Reachability
import LinkShortener.Proofs.Retry.Completion
import LinkShortener.Proofs.Retry.Discipline
import LinkShortener.Proofs.Retry.Agreement
import LinkShortener.Proofs.Store.Honesty
import LinkShortener.Proofs.Store.Calm
import LinkShortener.Proofs.Store.Transience
import LinkShortener.Proofs.Store.Likeness
import LinkShortener.Proofs.Service.Calm
import LinkShortener.Proofs.Service.Acknowledgement
import LinkShortener.Proofs.Service.Settlement
import LinkShortener.Proofs.Service.Repositories
import LinkShortener.Proofs.Service.Transience
import LinkShortener.Proofs.Service.Effects
import LinkShortener.Proofs.Service.Likeness
import LinkShortener.Proofs.Http.Asking
import LinkShortener.Proofs.Http.Serving
import LinkShortener.Proofs.Http.Repetition
import LinkShortener.Proofs.Http.Effects
import LinkShortener.Proofs.Http.Purging
import LinkShortener.Proofs.Text.Ascii
import LinkShortener.Proofs.Store.Growth
import LinkShortener.Proofs.Store.Undisturbed
import LinkShortener.Proofs.Service.Lookups
import LinkShortener.Proofs.Service.Undisturbed
import LinkShortener.Proofs.Service.Growth
import LinkShortener.Proofs.Http.Caching
import LinkShortener.Proofs.Http.Transparency
import LinkShortener.Proofs.Http.Paths
import LinkShortener.Proofs.Http.Redirection
import LinkShortener.Proofs.Service.Races
import LinkShortener.Proofs.Retry.Coupling
import LinkShortener.Proofs.Service.Resemblance
import LinkShortener.Proofs.Http.SideBySide
import LinkShortener.Proofs.Store.Discretion
import LinkShortener.Proofs.Service.Discretion
import LinkShortener.Proofs.Http.Discretion
import LinkShortener.Proofs.Settings.Masking
import LinkShortener.Proofs.Retry.Reckoning
import LinkShortener.Proofs.Service.Promptness
import LinkShortener.Proofs.Http.Secrecy
import LinkShortener.Proofs.Ledger.Windows
import LinkShortener.Proofs.Http.Refusal
import LinkShortener.Proofs.Service.Conflicts
import LinkShortener.Proofs.Registration.Rules
import LinkShortener.Proofs.Slug.Agreement
import LinkShortener.Proofs.Http.Keys
import LinkShortener.Proofs.Operator.Showing
import LinkShortener.Proofs.Service.Search
