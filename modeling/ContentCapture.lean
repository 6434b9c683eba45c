import ContentCapture.Main
import ContentCapture.Dispatch.JobTree
import ContentCapture.Reply.Rendezvous
import ContentCapture.Deployment.Scripted
import ContentCapture.Proofs.Sequences
import ContentCapture.Proofs.Cycle
import ContentCapture.Proofs.Finality
import ContentCapture.Proofs.Journal
import ContentCapture.Proofs.Elementary
import ContentCapture.Proofs.Delivery
import ContentCapture.Proofs.Conversation
import ContentCapture.Proofs.Standing
import ContentCapture.Proofs.Accounts
import ContentCapture.Proofs.Handling
import ContentCapture.Proofs.History
import ContentCapture.Proofs.Numbering
import ContentCapture.Proofs.Identity
import ContentCapture.Proofs.Records
import ContentCapture.Proofs.Sinks
import ContentCapture.Proofs.Agreement
import ContentCapture.Proofs.Turns
import ContentCapture.Proofs.Succession
import ContentCapture.Proofs.Verdicts
import ContentCapture.Proofs.Outspoken
import ContentCapture.Proofs.Batches
import ContentCapture.Proofs.Outlines
import ContentCapture.Proofs.Schedules
import ContentCapture.Proofs.Lockstep
import ContentCapture.Proofs.Looks
import ContentCapture.Proofs.Observers
import ContentCapture.Proofs.Outstanding
import ContentCapture.Proofs.Register
import ContentCapture.Proofs.Severance
import ContentCapture.Proofs.Keeping
import ContentCapture.Proofs.Isolation
import ContentCapture.Proofs.Rejections
import ContentCapture.Proofs.Unread
import ContentCapture.Proofs.Flags
import ContentCapture.Proofs.Meeting
import ContentCapture.Proofs.Clients
import ContentCapture.Proofs.Stillness
import ContentCapture.Proofs.Retrospect
import ContentCapture.Proofs.Provision
import ContentCapture.Proofs.Denotation
import ContentCapture.Proofs.Spelling
import ContentCapture.Proofs.Concord
import ContentCapture.Proofs.Reading
import ContentCapture.Proofs.RoundTrip
import ContentCapture.Proofs.Flushes
import ContentCapture.Proofs.Questioning
import ContentCapture.Proofs.Scheduling
import ContentCapture.Proofs.Grammar
import ContentCapture.Proofs.Settings
import ContentCapture.Proofs.Overrides
import ContentCapture.Proofs.Reports
import ContentCapture.Proofs.Settling
import ContentCapture.Proofs.Simulation
import ContentCapture.Proofs.Commands
import ContentCapture.Proofs.Abbreviation
import ContentCapture.Proofs.Composition
import ContentCapture.Proofs.Scanning
