import Std.Time
import Workbench.Board.Check
import Workbench.Branch.Merge
import Workbench.Branch.Worktree
import Workbench.Codebase.EntryPoints
import Workbench.Codebase.Imports
import Workbench.Commit.Grouping
import Workbench.Component.Agent
import Workbench.Component.Command
import Workbench.Component.Hooks
import Workbench.Component.Plugin
import Workbench.Component.Quality
import Workbench.Component.Reminder
import Workbench.Component.Skill
import Workbench.Issue.Creation
import Workbench.Issue.Milestone
import Workbench.Issue.Relation
import Workbench.Issue.Title
import Workbench.Issue.Tracker
import Workbench.Issue.Triage
import Workbench.Notes.Client
import Workbench.Notes.Connection
import Workbench.Notes.Setup
import Workbench.Notes.Writer
import Workbench.PullRequest.Care
import Workbench.Release.Bump
import Workbench.Release.Notes
import Workbench.Research.Cache
import Workbench.Research.Citation
import Workbench.Research.Learning
import Workbench.Review.Analysis
import Workbench.Review.Completeness
import Workbench.Review.Compliance
import Workbench.Review.Quality
import Workbench.Review.Security
import Workbench.Review.Transcript
import Workbench.Workspace.Environment
import Workbench.World.Change

/-!
# Command line

The first word names a tool, and the rest are its arguments.
-/

namespace Workbench

def commands : List (String × (List String → Tool Unit)) :=
  [("agent", Component.Agent.command), ("command", Component.Command.command),
    ("skill", Component.Skill.command),
   ("hooks", Component.Hooks.command), ("plugin", Component.Plugin.command),
   ("reminder", Component.Reminder.command), ("component-quality", Component.Quality.command),
   ("analysis", Review.analysisCommand), ("code-quality", Review.qualityCommand),
   ("security", Review.securityCommand), ("completeness", Review.completenessCommand),
   ("compliance", Review.Compliance.command), ("transcript", Review.Transcript.command),
   ("changelog", Release.changelogCommand), ("release-notes", Release.notesCommand),
   ("bump", Release.Bump.command), ("commit-message", Commit.Message.command),
   ("commit-history", Commit.History.command), ("commit-groups", Commit.Grouping.command),
   ("environment", Workspace.environmentCommand), ("scope", Workspace.scopeCommand),
   ("issues", Issue.trackerCommand), ("new-issue", Issue.Creation.command),
   ("triage", Issue.Triage.command), ("issue-title", Issue.Title.command),
   ("labels", Issue.Label.command), ("milestones", Issue.Milestone.command),
   ("relations", Issue.Relation.command), ("branch", Branch.command), ("flow", Branch.checkCommand),
   ("worktree", Branch.Worktree.command), ("board", Board.command),
   ("pull-request", PullRequest.command), ("cache", Research.Cache.command),
   ("learning", Research.Learning.command),
   ("evidence", Research.evidenceCommand), ("citations", Research.citationCommand),
   ("assessment", Research.assessmentCommand), ("standards", Research.standardsCommand),
   ("patterns", Codebase.shapesCommand), ("entry-points", Codebase.entryPointsCommand),
   ("imports", Codebase.importsCommand), ("backends", Notes.Backend.command),
   ("connection", Notes.Connection.command), ("setup", Notes.Setup.command),
   ("read-notes", Notes.readCommand), ("write-notes", Notes.Writer.command)]

def variableNames : List String :=
  ["HOME", "APPDATA", "LOGSEQ_API_URL", "LOGSEQ_API_TOKEN", "LOGSEQ_GRAPH_PATH", "TOOL_INPUT",
   "TOOL_INPUT_FILE_PATH"]

def baseVariable : String := "WORKBENCH_HOME"

def exitCode : Result Unit → Int
  | .ok () => 0
  | .error (.exit code) => code
  | .error (.usage _) => 2
  | .error _ => 1

def lastWords : Result Unit → String
  | .ok () | .error (.exit _) => ""
  | .error (.usage text) => "error: " ++ text ++ "\n"
  | .error e => e.message ++ "\n"

namespace CommandLine

def pathOf (p : Place) : String := "/" ++ Text.join "/" p

def contentOf (bytes : ByteArray) : Content :=
  match String.fromUTF8? bytes with
  | some s => .text s
  | none => .bytes bytes.toList

partial def load (files : Files) (p : Place) : IO Files := do
  let dir ← IO.FS.realPath (pathOf p)
  if ← dir.isDir then
    let mut files := files.put p .dir
    for entry in ← dir.readDir do files ← load files (p ++ [entry.fileName])
    return files
  else return files.put p (.file (contentOf (← IO.FS.readBinFile (pathOf p))) false)

def save (old new : Files) : IO Unit := do
  for (p, content) in old.changes new do
    match content with
    | none => IO.FS.removeFile (pathOf p)
    | some c =>
      IO.FS.createDirAll (pathOf p.dropLast)
      match c with
      | .text s => IO.FS.writeFile (pathOf p) s
      | .bytes b => IO.FS.writeBinFile (pathOf p) ⟨b.toArray⟩

def clock : IO Calendar.DateTime := do
  let seconds := (← Std.Time.Timestamp.now).toSecondsSinceUnixEpoch.val
  let start : Calendar.DateTime := { date := ⟨1970, 1, 1⟩ }
  return .ofWall (start.wall + seconds * 1000000) none

def surroundings (input : String) (terminal : Bool) : IO World := do
  let here := (Path.ofString (← IO.currentDir).toString).parts
  let environment ← variableNames.filterMapM fun k => do return (← IO.getEnv k).map (k, ·)
  let base := (← IO.getEnv baseVariable).getD (pathOf here)
  return { files := ← load (Files.mkdirs {} [] here) here, cwd := here, base := Path.ofString base,
           environment, input
           terminal, now := ← clock, respond := fun _ _ => .missing }

def wantsInput : Result Unit → Bool
  | .error .endOfInput => true
  | _ => false

/-- Runs a tool, and runs it again with one more line while it wants input that a terminal can give.
The first `shown` characters of its output have been printed before. -/
partial def converse (t : Tool Unit) (w : World) (shown : Nat) : IO UInt32 := do
  let (r, after) := Tool.exec t w
  IO.print (Text.drop after.out shown)
  (← IO.getStdout).flush
  if w.terminal && wantsInput r then
    let line ← (← IO.getStdin).getLine
    if line != "" then return ← converse t { w with input := w.input ++ line } after.out.length
  IO.eprint (after.err ++ lastWords r)
  save w.files after.files
  return UInt32.ofNat (exitCode r).toNat

end CommandLine

end Workbench

open Workbench in
def main (args : List String) : IO UInt32 := do
  match args with
  | [] =>
    IO.println (Text.join "\n" (commands.map (·.1)))
    return 1
  | name :: argv =>
    match commands.lookup name with
    | none =>
      IO.eprintln ("unknown tool: " ++ name)
      return 2
    | some tool =>
      let stdin ← IO.getStdin
      let terminal ← stdin.isTty
      let input ← if terminal then pure ""
        else (do return (String.fromUTF8? (← stdin.readBinToEnd)).getD "")
      CommandLine.converse (tool argv) (← CommandLine.surroundings input terminal) 0
