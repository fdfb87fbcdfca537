import WikiPeople.Library.Machine
import WikiPeople.Library.Table
import WikiPeople.Library.Text
import WikiPeople.Library.Lines
import WikiPeople.Library.Json
import WikiPeople.Library.Numerals
import WikiPeople.Library.JsonText
import WikiPeople.Library.Ranking
import WikiPeople.Library.Replacement
import WikiPeople.Library.Keyset
import WikiPeople.Library.Paging
import WikiPeople.Library.FormEncoding
import WikiPeople.Models
import WikiPeople.Config
import WikiPeople.Policy
import WikiPeople.Repository.Results
import WikiPeople.Repository.Queue
import WikiPeople.Repository.Lists
import WikiPeople.Repository.Cleanup
import WikiPeople.App
import WikiPeople.Worker
import WikiPeople.System
import WikiPeople.Rows
import WikiPeople.Jobs
import WikiPeople.Liveness
import WikiPeople.Leases
import WikiPeople.Attempts
import WikiPeople.ActiveWikis
import WikiPeople.Freshness
import WikiPeople.Herd
import WikiPeople.Clients
import WikiPeople.Optout
import WikiPeople.Serving
import WikiPeople.Validation
import WikiPeople.Operations
import WikiPeople.PendingWork
import WikiPeople.Permanent
import WikiPeople.Attribution
import WikiPeople.Ladder
import WikiPeople.Outcomes
import WikiPeople.Provenance
import WikiPeople.Gadget
import WikiPeople.Sentence
import WikiPeople.ArticleBox
import WikiPeople.Standing
import WikiPeople.Rotation
import WikiPeople.Titles
import WikiPeople.OptoutSync
import WikiPeople.OptoutJob
import WikiPeople.Replica
import WikiPeople.Backfill
import WikiPeople.BackfillWalk
import WikiPeople.LockChecks
import WikiPeople.Vanished
import WikiPeople.CandidatePool
import WikiPeople.Fallback
import WikiPeople.OptoutTitles
import WikiPeople.OptoutGrammar
import WikiPeople.Listings
import WikiPeople.CategoryListing
import WikiPeople.EditHistory
import WikiPeople.Endless
import WikiPeople.Rankings
import WikiPeople.Migrate
import WikiPeople.Leniency
import WikiPeople.Expiry
import WikiPeople.OddTokens
import WikiPeople.RequestLines
import WikiPeople.CursorCodec
import WikiPeople.Overrides
import WikiPeople.Library.Measure
import WikiPeople.Draining
import WikiPeople.Ledger
import WikiPeople.Sanctions
import WikiPeople.SessionCache
import WikiPeople.Library.Memo
import WikiPeople.GlobalUsers
import WikiPeople.Library.Turns
import WikiPeople.QueueEntries
import WikiPeople.Prewarm
import WikiPeople.WikiWho
import WikiPeople.Library.Raising
import WikiPeople.PageRequests
import WikiPeople.Wire
import WikiPeople.Verdicts
import WikiPeople.Accounts
import WikiPeople.World
import WikiPeople.Library.Sweep
import WikiPeople.TitleWalk
import WikiPeople.Reader
import WikiPeople.Community
import WikiPeople.Decisions
