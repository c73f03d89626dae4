import TableTalk.Command.Program
import TableTalk.Delimited.Reader
import TableTalk.Delimited.Writer
import TableTalk.Dialogue.Prefix
import TableTalk.Dialogue.Session
import TableTalk.Main
import TableTalk.Plan.Document
import TableTalk.Proofs.Alignment
import TableTalk.Proofs.Calls
import TableTalk.Proofs.Feasibility
import TableTalk.Report.Summary
import TableTalk.Proofs.Lockstep
import TableTalk.Proofs.Answering
import TableTalk.Proofs.Resuming
import TableTalk.Proofs.Obstacles
import TableTalk.Proofs.Resolving
import TableTalk.Proofs.Bytes
import TableTalk.Proofs.Documents
import TableTalk.Proofs.Places
import TableTalk.Proofs.Reapplying
import TableTalk.Proofs.Limits
import TableTalk.Proofs.Omitting
import TableTalk.Proofs.Transcribing
import TableTalk.Proofs.Typing
import TableTalk.Proofs.Rereading
import TableTalk.Proofs.Restoring
import TableTalk.Proofs.Editing
import TableTalk.Proofs.Storing
import TableTalk.Proofs.Terminals
import TableTalk.Proofs.Accounting
import TableTalk.Proofs.Extending
import TableTalk.Proofs.Offering
import TableTalk.Proofs.Reading
import TableTalk.Proofs.WaysOut
import TableTalk.Proofs.Filtering
import TableTalk.Proofs.Orders
import TableTalk.Proofs.Selecting
import TableTalk.Proofs.Sorting
import TableTalk.Proofs.Writing
import TableTalk.Proofs.Dividing
import TableTalk.Proofs.Promoting
import TableTalk.Proofs.Separating
import TableTalk.Proofs.Comparing
import TableTalk.Proofs.Carrying
import TableTalk.Proofs.Denoting
import TableTalk.Proofs.Tabulating
import TableTalk.Proofs.Numbering
import TableTalk.Proofs.Stripping
import TableTalk.Proofs.Wording
import TableTalk.Proofs.Recognizing
import TableTalk.Proofs.Choosing
import TableTalk.Proofs.Completing
import TableTalk.Proofs.Joining
import TableTalk.Proofs.Running
