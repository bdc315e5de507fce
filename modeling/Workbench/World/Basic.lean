import Workbench.World.Fault

/-!
# The world of a tool

A tool runs in a world that is a value: a file tree, an environment, a clock, standard input, and
the answers of child processes and of a web service.
-/

namespace Workbench

/-- How a call ends. -/
inductive Reply where
  | finished (code : Int) (out err : String)
  | missing
  | timeout
deriving DecidableEq, Repr, Inhabited

abbrev Argv := List String

abbrev Responder := (before : List Argv) → (call : Argv) → Reply

/-- What a server answers. -/
structure Answer where
  status : Nat := 200
  body : String
deriving DecidableEq, Repr, Inhabited

/-- How a request ends. -/
inductive WebReply where
  | answered (a : Answer)
  | refused (code : Nat) (reason : String)
  | unreachable (reason : String)
deriving DecidableEq, Repr, Inhabited

/-- What is asked of a server. -/
structure Request where
  url : String
  method : String
  headers : List (String × String)
  body : Value

/-- What a world remembers: texts by the path they were read from, and documents by their text. -/
structure Memory where
  texts : List (String × String) := []
  documents : List (String × Value) := []

/-- All that a tool can see and change. -/
structure World where
  files : Files := {}
  cwd : Place := []
  /-- The directory that holds the tools' own data. -/
  base : Path := ⟨true, []⟩
  environment : List (String × String) := []
  input : String := ""
  terminal : Bool := false
  now : Calendar.DateTime := { date := ⟨2025, 1, 15⟩, hour := 12 }
  platform : String := "Linux"
  ports : List String := []
  programs : List (String × String) := []
  respond : Responder := fun _ _ => .finished 0 "" ""
  web : List WebReply := []
  /-- Whether JSON documents are written on one line whatever layout is asked for. -/
  oneLineJson : Bool := false
  /-- What is remembered of files and documents, if anything is. -/
  memory : Option Memory := none
  out : String := ""
  err : String := ""
  calls : List Argv := []
  requests : List Request := []

instance : Inhabited World := ⟨{}⟩

abbrev Tool := ExceptT Fault (StateM World)

namespace Tool

/-- A run of a tool: what it answers, and the world it leaves. -/
def exec {α : Type} (t : Tool α) (w : World) : Result α × World := t.run w

/-! ### Console -/

def put (s : String) : Tool Unit := modify fun w => { w with out := w.out ++ s }

/-- Print a line. -/
def say (s : String) : Tool Unit := put (s ++ "\n")

def sayAll (xs : List String) : Tool Unit := put (String.join (xs.map (· ++ "\n")))

def complain (s : String) : Tool Unit := modify fun w => { w with err := w.err ++ s ++ "\n" }

def ask (prompt : String) : Tool String := do
  put prompt
  let w ← get
  let s := w.input.toList
  if s.isEmpty then throw .endOfInput
  let line := s.takeWhile (· != '\n')
  set { w with input := .ofList (s.drop (line.length + 1)) }
  return .ofList line

def readInput : Tool String := do
  let w ← get
  set { w with input := "" }
  return w.input

def exit {α : Type} (code : Int) : Tool α := throw (.exit code)

/-! ### Surroundings -/

def env? (name : String) : Tool (Option String) := do return (← get).environment.lookup name

def env (name default : String) : Tool String := do return (← env? name).getD default

def now : Tool Calendar.DateTime := do return (← get).now

def nowUtc : Tool Calendar.DateTime := do return { (← get).now with offset := some 0 }

def cwd : Tool Path := do
  let w ← get
  return w.files.pathTo w.cwd

def home : Tool Path := do
  return match (← get).environment.lookup "HOME" with
    | some h => Path.ofString h
    | none => ⟨true, []⟩

def beside (relative : String) : Tool Path := do return (← get).base / relative

def which (name : String) : Tool (Option String) := do return (← get).programs.lookup name

def listens (host : String) (port : String) : Tool Bool := do
  return (← get).ports.contains (host ++ ":" ++ port)

/-! ### Files -/

def onFile {α : Type} (raw : String) (f : Files → Place → Except FileError α) : Tool α := do
  let w ← get
  if raw.toList.contains (Char.ofNat 0) then throw (.invalid "embedded null byte")
  match f w.files w.cwd with
  | .ok a => return a
  | .error e => throw (.file e raw)

/-- What is at a path, if anything. -/
def nodeAt (raw : String) : Tool (Option Node) := do
  let w ← get
  if raw.toList.contains (Char.ofNat 0) then return none
  match w.files.stat w.cwd raw with
  | .ok n => return some n
  | .error .nameTooLong => throw (.file .nameTooLong raw)
  | .error _ => return none

/-- Whether anything is at a path. -/
def pathExists (raw : String) : Tool Bool := do return (← nodeAt raw).isSome

def isDir (raw : String) : Tool Bool := do
  return match ← nodeAt raw with
    | some .dir => true
    | _ => false

def isFile (raw : String) : Tool Bool := do
  return match ← nodeAt raw with
    | some (.file _ _) => true
    | _ => false

def isHere (raw : String) : Tool Bool :=
  onFile raw fun t cwd => do
    let _ ← t.stat cwd raw
    return (← t.locate cwd raw) == cwd

/-- The text that a content stands for, with line feeds only. -/
def decodeText : Content → Result String
  | .text s => .ok (.ofList (Text.unixLineEnds s.toList))
  | .bytes b => match Utf8.decode b with
    | .ok s => .ok (.ofList (Text.unixLineEnds s.toList))
    | .error e => .error (.encoding e)

/-- The text of a file. -/
def readText (raw : String) : Tool String := do
  decodeText (← onFile raw fun t cwd => t.read cwd raw)

def writeText (raw text : String) : Tool Unit := do
  let t ← onFile raw fun t cwd => t.write cwd raw (.text text)
  modify fun w => { w with files := t }

def appendText (raw text : String) : Tool Unit := do
  let old ← match ← nodeAt raw with
    | some (.file (.text s) _) => pure (Content.text (s ++ text))
    | some (.file (.bytes b) _) => pure (Content.bytes (b ++ text.toUTF8.toList))
    | _ => pure (Content.text text)
  let t ← onFile raw fun t cwd => t.write cwd raw old
  modify fun w => { w with files := t }

def makeDir (raw : String) (quiet : Bool) : Tool Unit := do
  let w ← get
  match w.files.mkdir w.cwd raw with
  | .ok t => set { w with files := t }
  | .error e =>
    if quiet && e == .exists && (← isDir raw) then return
    throw (.file e raw)

/-- Makes the directories of a path, the upper ones first, as far as they are missing. -/
def makeDirs : (fuel : Nat) → Path → Tool Unit
  | 0, p => makeDir p.toString true
  | fuel + 1, p => do
    let w ← get
    match w.files.mkdir w.cwd p.toString with
    | .ok t => set { w with files := t }
    | .error .missing =>
      makeDirs fuel p.parent
      makeDir p.toString true
    | .error e =>
      if ← isDir p.toString then return
      throw (.file e p.toString)

def makePath (p : Path) : Tool Unit := makeDirs (p.parts.length + 1) p

def removeFile (raw : String) : Tool Unit := do
  let t ← onFile raw fun t cwd => t.unlink cwd raw
  modify fun w => { w with files := t }

def children (p : Path) : Tool (List Path) := do
  let raw := p.toString
  let ns ← onFile raw fun t cwd => t.list cwd raw
  return ns.map fun n => { p with parts := p.parts ++ [n] }

def glob (p : Path) (segments : List String) : Tool (List Path) := do
  let w ← get
  match w.files.locate w.cwd p.toString with
  | .error _ => return []
  | .ok place =>
    return (w.files.glob segments place).map fun ns => { p with parts := p.parts ++ ns }

def resolve (p : Path) : Tool Path := do return Path.resolve (← cwd) p

/-! ### Child processes -/

def call (argv : Argv) : Tool Reply := do
  let w ← get
  set { w with calls := w.calls ++ [argv] }
  return w.respond w.calls argv

/-- A call that came to an end. -/
structure Ended where
  code : Int
  out : String
  err : String

/-- Run a program and wait for its end. -/
def run (argv : Argv) (limit : String) : Tool Ended := do
  match ← call argv with
  | .finished code out err => return ⟨code, out, err⟩
  | .missing => throw (.file .missing (argv.headD ""))
  | .timeout => throw (.timeout argv limit)

def runChecked (argv : Argv) : Tool Ended := do
  let r ← run argv "None"
  if r.code != 0 then throw (.failed argv r.code r.out r.err)
  return r

/-! ### Web -/

def fetch (r : Request) : Tool Answer := do
  let w ← get
  let (reply, rest) := match w.web with
    | [] => (WebReply.unreachable "exhausted", [])
    | x :: xs => (x, xs)
  set { w with web := rest, requests := w.requests ++ [r] }
  match reply with
  | .answered a => return a
  | .refused code reason => throw (.status code reason)
  | .unreachable reason => throw (.unreachable reason)

/-! ### Documents -/

def parseJson (text : String) : Result Value :=
  match Json.parse text with
  | .ok v => .ok v
  | .error e => .error (.json e)

def readJson (raw : String) : Tool Value := do parseJson (← readText raw)

def writeFault (e : Json.WriteError) : Fault :=
  match e with
  | .tooManyDigits _ => .invalid e.message
  | _ => .kind e.message

def jsonLayout (w : World) (l : Json.Layout) : Json.Layout :=
  { l with
    indent := if w.oneLineJson then none else l.indent
    digits := some Decimal.digitLimit }

def renderJson (l : Json.Layout) (v : Value) : Tool String := do
  match Json.render (jsonLayout (← get) l) v with
  | .ok s => return s
  | .error e => throw (writeFault e)

/-- Writes a document into a file, which is emptied first.  If the document cannot be written, the
file is left with the parts before the one that cannot. -/
def dumpJson (raw : String) (v : Value) : Tool Unit := do
  let l := jsonLayout (← get) .indented
  match Json.render l v with
  | .ok s => writeText raw s
  | .error e =>
    writeText raw (Json.print l 0 v).1
    throw (writeFault e)

def sayJson (v : Value) : Tool Unit := do say (← renderJson .indented v)

/-- Faults of a kind are handled, all others go on. -/
def guarded {α : Type} (t : Tool α) (handles : Fault → Bool) (handler : Fault → Tool α) : Tool α :=
  tryCatch t fun e => if handles e then handler e else throw e

end Tool

end Workbench
