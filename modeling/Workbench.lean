import Workbench.Bench.Workload
import Workbench.Main
import Workbench.Proofs.Branch.Policies
import Workbench.Proofs.Branch.Removing
import Workbench.Proofs.Branch.Settings
import Workbench.Proofs.Codebase.Targets
import Workbench.Proofs.Commit.History
import Workbench.Proofs.Commit.Messages
import Workbench.Proofs.Component.Advice
import Workbench.Proofs.Issue.Milestones
import Workbench.Proofs.Issue.References
import Workbench.Proofs.Issue.Titles
import Workbench.Proofs.Markdown.Fences
import Workbench.Proofs.Notes.Appending
import Workbench.Proofs.Notes.Credentials
import Workbench.Proofs.Release.Raising
import Workbench.Proofs.Release.Runs
import Workbench.Proofs.Release.Sections
import Workbench.Proofs.Research.Citations
import Workbench.Proofs.Research.Clearing
import Workbench.Proofs.Research.Index
import Workbench.Proofs.Research.Log
import Workbench.Proofs.Review.Fencing
import Workbench.Proofs.Review.Nesting
import Workbench.Proofs.Review.Transcripts
import Workbench.Proofs.Workspace.FirstIssue
import Workbench.Proofs.Workspace.ScopeNames
import Workbench.World.Script
import Workbench.Proofs.Branch.Release
