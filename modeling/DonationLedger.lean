import DonationLedger.Scenario.Play
import DonationLedger.Json.Reader
import DonationLedger.Ledger.Archive
import DonationLedger.Rpc
import DonationLedger.Proofs.Ledger.Rows
import DonationLedger.Proofs.Work.Yields
import DonationLedger.Proofs.Ledger.Later
import DonationLedger.Proofs.Work.Lasting
import DonationLedger.Proofs.Ledger.Rewrites
import DonationLedger.Proofs.Resolution.Pair
import DonationLedger.Proofs.Resolution.Log
import DonationLedger.Proofs.System.Run
import DonationLedger.Proofs.System.Meets
import DonationLedger.Proofs.Ledger.Sound
import DonationLedger.Proofs.Resolution.Sound
import DonationLedger.Proofs.Resolution.Walk
import DonationLedger.Proofs.Follow.Walk
import DonationLedger.Proofs.Links
import DonationLedger.Proofs.Text.Spelling
import DonationLedger.Proofs.Credit
import DonationLedger.Proofs.System.Ends
import DonationLedger.Proofs.Resolution.Failing
import DonationLedger.Proofs.Resolution.Settlement
import DonationLedger.Proofs.Confluence
import DonationLedger.Proofs.Resolution.Seen
import DonationLedger.Proofs.Agreement
import DonationLedger.Proofs.System.Alone
import DonationLedger.Proofs.Ledger.Renaming
import DonationLedger.Proofs.Work.Mirrored
import DonationLedger.Proofs.Resolution.Mirrored
import DonationLedger.Proofs.System.Flaky
import DonationLedger.Proofs.Follow.Mirrored
import DonationLedger.Proofs.Follow.Sparing
import DonationLedger.Proofs.Checkpoint
import DonationLedger.Proofs.Resolution.Again
import DonationLedger.Proofs.Idempotence
import DonationLedger.Proofs.Invariant
import DonationLedger.Proofs.Names
import DonationLedger.Proofs.Resolution.Resume
import DonationLedger.Proofs.Follow.Resume
import DonationLedger.Proofs.Replay
import DonationLedger.Proofs.Work.Failing
import DonationLedger.Proofs.Resolution.Valid
import DonationLedger.Proofs.References
import DonationLedger.Proofs.Finality
import DonationLedger.Proofs.Resolution.Proceeds
import DonationLedger.Proofs.Progress
import DonationLedger.Proofs.Follow.Requests
import DonationLedger.Proofs.Follow.Held
import DonationLedger.Proofs.Exclusion
import DonationLedger.Proofs.Tiling
import DonationLedger.Proofs.Queue.Flight
import DonationLedger.Proofs.Reordering
import DonationLedger.Proofs.Resolution.Decision
import DonationLedger.Proofs.Unclaimed
import DonationLedger.Proofs.Matching
import DonationLedger.Proofs.Terminal
import DonationLedger.Proofs.FirstCome
import DonationLedger.Proofs.Retry
import DonationLedger.Proofs.Queue.Course
import DonationLedger.Proofs.Queue.Attempts
import DonationLedger.Proofs.Refusal
import DonationLedger.Proofs.System.Keeping
import DonationLedger.Proofs.Resolution.Touching
import DonationLedger.Proofs.Footprint
import DonationLedger.Proofs.Follow.Counts
import DonationLedger.Proofs.Account
import DonationLedger.Proofs.Text.Utf8
import DonationLedger.Proofs.Curation.Encoding
import DonationLedger.Proofs.Decimal.Value
import DonationLedger.Proofs.Amount
import DonationLedger.Proofs.Queue.Backoff
import DonationLedger.Proofs.Text.Hex
import DonationLedger.Proofs.Replies
import DonationLedger.Proofs.Keys
import DonationLedger.Proofs.Settings
