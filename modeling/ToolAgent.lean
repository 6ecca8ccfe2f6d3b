import ToolAgent.Main
import ToolAgent.Model.Script
import ToolAgent.Proofs.Conversation.Pairing
import ToolAgent.Proofs.Json.Scanner
import ToolAgent.Proofs.Model.Decoding
import ToolAgent.Proofs.Model.Messages
import ToolAgent.Proofs.Server.Closing
import ToolAgent.Proofs.Server.Phases
import ToolAgent.Proofs.Server.Resolution
import ToolAgent.Proofs.Server.Routing
import ToolAgent.Proofs.Session.Batch
import ToolAgent.Proofs.Session.Gate
import ToolAgent.Proofs.Session.Replies
import ToolAgent.Proofs.Session.Rounds
import ToolAgent.Proofs.Session.Runs
import ToolAgent.Proofs.Session.Story
import ToolAgent.Proofs.Shell.Words
import ToolAgent.Proofs.Text.Lines
import ToolAgent.Proofs.Text.Utf8
import ToolAgent.Proofs.Text.Words
import ToolAgent.Proofs.Tool.Consent
import ToolAgent.Proofs.Conversation.Operations
import ToolAgent.Proofs.Session.Progress
import ToolAgent.Proofs.Session.Account
import ToolAgent.Proofs.Server.Naming
import ToolAgent.Proofs.Table
import ToolAgent.Proofs.Server.Namespace
import ToolAgent.Proofs.Model.Collecting
import ToolAgent.Proofs.Session.Failure
import ToolAgent.Proofs.Session.Streaming
import ToolAgent.Proofs.Session.Course
import ToolAgent.Proofs.Session.Compaction
import ToolAgent.Proofs.Session.Wire
import ToolAgent.Proofs.Conversation.Pruning
import ToolAgent.Proofs.Conversation.Context
import ToolAgent.Proofs.Files.Writing
import ToolAgent.Proofs.Text.Occurrences
import ToolAgent.Proofs.Tool.Replacement
import ToolAgent.Proofs.Permissions
import ToolAgent.Proofs.Session.Trust
import ToolAgent.Proofs.Since
import ToolAgent.Proofs.Model.Ending
import ToolAgent.Proofs.Model.Answer
import ToolAgent.Proofs.Files.Creation
import ToolAgent.Proofs.Tool.LineRange
import ToolAgent.Proofs.Tool.Appending
import ToolAgent.Proofs.Text.Join
import ToolAgent.Proofs.Text.Trim
import ToolAgent.Proofs.Files.Paths
import ToolAgent.Proofs.Files.Directories
import ToolAgent.Proofs.Tool.Frame
import ToolAgent.Proofs.Tool.Listing
import ToolAgent.Proofs.Session.Summary
import ToolAgent.Proofs.Server.Registration
import ToolAgent.Proofs.Server.Paging
import ToolAgent.Proofs.Session.Lineup
import ToolAgent.Proofs.Session.Calls
import ToolAgent.Proofs.Session.Commands
import ToolAgent.Proofs.Conversation.Prompting
import ToolAgent.Proofs.Server.Endless
import ToolAgent.Proofs.Repl.Reading
import ToolAgent.Proofs.Text.Boundary
import ToolAgent.Proofs.Tool.Truncation
import ToolAgent.Proofs.Json.Restoring
import ToolAgent.Proofs.Restoring
