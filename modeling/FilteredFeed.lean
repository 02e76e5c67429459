import FilteredFeed.Clause.Parser
import FilteredFeed.Command.Execute
import FilteredFeed.Engine.Materialize
import FilteredFeed.Feed.ItemJson
import FilteredFeed.Filter.Agreement
import FilteredFeed.Listener.Session
import FilteredFeed.Main
import FilteredFeed.Report.Filter
import FilteredFeed.Report.Items
import FilteredFeed.Report.Settings
import FilteredFeed.Scenario.Step
import FilteredFeed.Toml.Document
import FilteredFeed.Proofs.Grammar.Chain
import FilteredFeed.Proofs.Grammar.Phrase
import FilteredFeed.Proofs.Clause.Like
import FilteredFeed.Proofs.Clause.Scan
import FilteredFeed.Proofs.Clause.Written
import FilteredFeed.Proofs.Clause.Backtracking
import FilteredFeed.Proofs.Clause.Grammar
import FilteredFeed.Proofs.Filter.Translation
import FilteredFeed.Proofs.Filter.Agreement
import FilteredFeed.Proofs.Engine.Run
import FilteredFeed.Proofs.Engine.Sections
import FilteredFeed.Proofs.Engine.Requests
import FilteredFeed.Proofs.Engine.Changes
import FilteredFeed.Proofs.Engine.Sound
import FilteredFeed.Proofs.Engine.Buffered
import FilteredFeed.Proofs.Engine.Incidents
import FilteredFeed.Proofs.Engine.Answers
import FilteredFeed.Proofs.Listener.Registry
import FilteredFeed.Proofs.Engine.Wiring
import FilteredFeed.Proofs.Engine.Links
import FilteredFeed.Proofs.Engine.Notice
import FilteredFeed.Proofs.Engine.Attachment
import FilteredFeed.Proofs.Engine.Rounds
import FilteredFeed.Proofs.Engine.Settled
import FilteredFeed.Proofs.Engine.Overtaken
import FilteredFeed.Proofs.Listener.Bus
import FilteredFeed.Proofs.Listener.Notification
import FilteredFeed.Proofs.Listener.Return
import FilteredFeed.Proofs.Engine.Staffed
import FilteredFeed.Proofs.Engine.Accounted
import FilteredFeed.Proofs.Engine.Activations
import FilteredFeed.Proofs.Engine.Phases
import FilteredFeed.Proofs.Engine.Unheard
import FilteredFeed.Proofs.Engine.Secluded
import FilteredFeed.Proofs.Engine.Effects
import FilteredFeed.Proofs.Engine.QueryEffects
import FilteredFeed.Proofs.Filter.Grammar
import FilteredFeed.Proofs.Filter.Scan
import FilteredFeed.Proofs.Filter.Display
import FilteredFeed.Proofs.Filter.Meaning
import FilteredFeed.Proofs.Filter.Structure
import FilteredFeed.Proofs.Engine.Course
import FilteredFeed.Proofs.Engine.Leaves
import FilteredFeed.Proofs.Engine.Modest
import FilteredFeed.Proofs.Timeline.Log
import FilteredFeed.Proofs.Engine.Resumed
import FilteredFeed.Proofs.Engine.Logged
import FilteredFeed.Proofs.Engine.Proceeds
import FilteredFeed.Proofs.Engine.Summons
import FilteredFeed.Proofs.Engine.Pages
import FilteredFeed.Proofs.Engine.Timely
import FilteredFeed.Proofs.Engine.Called
import FilteredFeed.Proofs.Engine.Retained
import FilteredFeed.Proofs.Engine.CaughtUp
import FilteredFeed.Proofs.Engine.Expected
import FilteredFeed.Proofs.Engine.Marks
import FilteredFeed.Proofs.Engine.Refreshed
import FilteredFeed.Proofs.Engine.Operations
import FilteredFeed.Proofs.Engine.Paged
import FilteredFeed.Proofs.Engine.Unbroken
import FilteredFeed.Proofs.Engine.Underway
import FilteredFeed.Proofs.Engine.Holders
import FilteredFeed.Proofs.Engine.Disposed
import FilteredFeed.Proofs.Timeline.Newest
import FilteredFeed.Proofs.Feed.Storage
import FilteredFeed.Proofs.Feed.Channel
import FilteredFeed.Proofs.Engine.Feeding
import FilteredFeed.Proofs.Engine.FirstFill
import FilteredFeed.Proofs.Engine.Supply
import FilteredFeed.Proofs.Engine.Recovered
import FilteredFeed.Proofs.Timeline.Arrivals
import FilteredFeed.Proofs.Engine.Materialized
import FilteredFeed.Proofs.Timeline.Offers
import FilteredFeed.Proofs.Timeline.Batch
import FilteredFeed.Proofs.Feed.Paging
import FilteredFeed.Proofs.Engine.Announced
import FilteredFeed.Proofs.Engine.RoundRevisions
import FilteredFeed.Proofs.Engine.FinalRevision
import FilteredFeed.Proofs.Engine.Assigned
import FilteredFeed.Proofs.Engine.Refilled
import FilteredFeed.Proofs.Engine.Fitted
import FilteredFeed.Proofs.Engine.Coalesced
import FilteredFeed.Proofs.Engine.Tally
import FilteredFeed.Proofs.Engine.RolledBack
import FilteredFeed.Proofs.Engine.Memos
import FilteredFeed.Proofs.Engine.Compilations
import FilteredFeed.Proofs.Text.Decimal
import FilteredFeed.Proofs.Feed.Calendar
import FilteredFeed.Proofs.Feed.Instant
import FilteredFeed.Proofs.Json.Text
import FilteredFeed.Proofs.Json.Record
import FilteredFeed.Proofs.Feed.ItemJson
import FilteredFeed.Proofs.Filter.Partition
