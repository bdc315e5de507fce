import Workbench.Value.Access
import Workbench.World.Basic

/-!
# Transcripts

A transcript has one JSON object a line.  Objects of four types are messages; all other lines are
passed over.
-/

namespace Workbench.Review.Transcript

open Text Tool

def partText (v : Value) : Option (Result Value) :=
  match v with
  | .map _ =>
    match v.get? "type" with
    | some "text" => some (v.fieldOr "text" "")
    | some "tool_use" =>
      some ((v.fieldOr "name" "unknown").map fun n => .str s!"[Tool: {n.display}]")
    | some "tool_result" => some (.ok "[Tool Result]")
    | _ => none
  | _ => none

def contentText (content : Value) : Result Value :=
  match content with
  | .str s => .ok s
  | .list parts => do
    let texts ← (parts.filterMap partText).mapM id
    return .str (← Value.joinTexts " " (.list texts))
  | .map _ => if content.get? "type" == some "text" then content.fieldOr "text" "" else .ok ""
  | _ => .ok ""

/-- Who speaks. -/
inductive Speaker where
  | user
  | assistant
deriving DecidableEq, Repr

def Speaker.role : Speaker → String
  | .user => "user"
  | .assistant => "assistant"

def Speaker.name : Speaker → String
  | .user => "User"
  | .assistant => "Assistant"

/-- A line of a transcript. -/
inductive Message where
  | spoken (by_ : Speaker) (text timestamp : Value)
  | toolUse (tool timestamp : Value)
  | toolResult (text timestamp : Value)

def Message.value : Message → Value
  | spoken s text time => .object [("role", s.role), ("content", text), ("timestamp", time)]
  | toolUse tool time => .object [("role", "tool_use"), ("tool", tool), ("timestamp", time)]
  | toolResult text time =>
    .object [("role", "tool_result"), ("content", text), ("timestamp", time)]

def Message.line? : Message → Option String
  | spoken s text _ => some s!"{s.name}: {text.display}"
  | _ => none

def Message.isBy (s : Speaker) : Message → Bool
  | spoken t _ _ => s == t
  | _ => false

def Message.isToolUse : Message → Bool
  | toolUse _ _ => true
  | _ => false

def resultLimit : Nat := 500

def shortened (v : Value) : Value :=
  match v with
  | .str s => if resultLimit < s.length then .str s!"{take s resultLimit}..." else v
  | other => other

def messageOf (entry : Value) : Result (Option Message) := do
  let type ← entry.fieldOr "type" ""
  let message ← entry.fieldOr "message" (.map [])
  let time ← entry.fieldOr "timestamp" ""
  match type with
  | .str "user" => return some (.spoken .user (← contentText (← message.fieldOr "content" "")) time)
  | .str "assistant" =>
    return some (.spoken .assistant (← contentText (← message.fieldOr "content" (.list []))) time)
  | .str "tool_use" => return some (.toolUse (← entry.fieldOr "name" "unknown") time)
  | .str "tool_result" =>
    return some (.toolResult (← contentText (shortened (← entry.fieldOr "content" ""))) time)
  | _ => return none

def messageOfLine (line : String) : Result (Option Message) :=
  let line := trim line
  if line == "" then .ok none
  else match parseJson line with
    | .ok entry => messageOf entry
    | .error e => if e.isJson then .ok none else .error e

def messages (text : String) : Result (List Message) := do
  return (← (split text "\n").mapM messageOfLine).filterMap id

def plainText (ms : List Message) : String := join "\n" (ms.filterMap Message.line?)

def valueOf (ms : List Message) : Value :=
  .object
    [("messages", .list (ms.map Message.value)),
      ("user_count", (ms.filter (Message.isBy .user)).length),
     ("assistant_count", (ms.filter (Message.isBy .assistant)).length),
     ("tool_uses", (ms.filter Message.isToolUse).length), ("total_lines", ms.length),
     ("plain_text", plainText ms)]

def read (file : String) : Tool (Except String (List Message)) :=
  guarded
    (do
      let ms ← messages (← readText file)
      return .ok ms)
    (fun e => !e.isExit)
    fun e => do
      let reason :=
        if e.isMissing then s!"File not found: {file}" else s!"Error parsing file: {e.message}"
      return .error reason

def readValue (r : Except String (List Message)) : Value :=
  match r with
  | .ok ms => valueOf ms
  | .error e =>
    .object
      [("error", e), ("messages", .list []), ("user_count", (0 : Nat)),
        ("assistant_count", (0 : Nat)),
       ("tool_uses", (0 : Nat)), ("total_lines", (0 : Nat)), ("plain_text", "")]

def command (argv : List String) : Tool Unit := do
  match argv with
  | [] =>
    complain "Usage: python parse-jsonl.py <jsonl-file> [output-file]"
    complain "  jsonl-file: Path to Claude Code JSONL transcript"
    complain "  output-file: Optional path to write plain text output"
    exit 1
  | file :: more =>
    match ← read file with
    | .error e =>
      complain s!"Error: {e}"
      exit 1
    | .ok ms =>
      match more.head? with
      | some target =>
        if target != "" then
          guarded
            (do
              writeText target (plainText ms)
              complain s!"Plain text written to: {target}")
            (fun e => !e.isExit)
            fun e => do
              complain s!"Error writing plain text: {e.message}"
              exit 1
      | none => pure ()
      let users := (ms.filter (Message.isBy .user)).length
      let assistants := (ms.filter (Message.isBy .assistant)).length
      say (← renderJson .line (.object
        [("user_count", users), ("assistant_count", assistants),
         ("tool_uses", (ms.filter Message.isToolUse).length), ("total_lines", ms.length),
         ("total_turns", users + assistants)]))

end Workbench.Review.Transcript
