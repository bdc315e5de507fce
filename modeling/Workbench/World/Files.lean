import Workbench.World.Path
import Workbench.World.Glob
import Workbench.World.Utf8

/-!
# Files

A file tree as a list of entries, each a place (the names from the root down) with a file or a
directory.
-/

namespace Workbench

/-- Why a file cannot be reached. -/
inductive FileError where
  | missing
  | exists
  | notDirectory
  | isDirectory
  | nameTooLong
deriving DecidableEq, Repr

def FileError.number : FileError → Nat
  | .missing => 2
  | .exists => 17
  | .notDirectory => 20
  | .isDirectory => 21
  | .nameTooLong => 36

def FileError.text : FileError → String
  | .missing => "No such file or directory"
  | .exists => "File exists"
  | .notDirectory => "Not a directory"
  | .isDirectory => "Is a directory"
  | .nameTooLong => "File name too long"

/-- What a file holds. -/
inductive Content where
  | text (s : String)
  | bytes (b : List UInt8)
deriving DecidableEq, Repr, Inhabited

def Content.size : Content → Nat
  | .text s => s.utf8ByteSize
  | .bytes b => b.length

/-- A file or a directory. -/
inductive Node where
  | file (content : Content) (executable : Bool)
  | dir
deriving DecidableEq, Repr, Inhabited

abbrev Place := List String

/-- A file tree.  The root is a directory whether listed or not.  The links are names at the root
that stand for other places: who climbs out of such a place comes to the directory that holds it,
where it has a name of its own. -/
structure Files where
  entries : List (Place × Node) := []
  links : List (String × Place) := []
deriving DecidableEq, Repr, Inhabited

namespace Files

/-- What is at a place, if anything. -/
def node? (t : Files) (p : Place) : Option Node :=
  if p.isEmpty then some .dir else t.entries.lookup p

def put (t : Files) (p : Place) (n : Node) : Files :=
  if t.entries.any (·.1 == p) then
    { t with entries := t.entries.map fun e => if e.1 == p then (p, n) else e }
  else { t with entries := t.entries ++ [(p, n)] }

def erase (t : Files) (p : Place) : Files :=
  { t with entries := t.entries.filter fun e => e.1 != p }

/-- Walks from `here` along the names of a path.  All but the last name must be directories. -/
def walk (t : Files) (here : Place) : List String → Except FileError Place
  | [] => .ok here
  | p :: ps =>
    if 255 < p.utf8ByteSize then .error .nameTooLong
    else if p == "" || p == "." then
      match t.node? here with
      | some .dir => walk t here ps
      | some _ => .error .notDirectory
      | none => .error .missing
    else if p == ".." then
      match t.node? here with
      | some .dir => walk t here.dropLast ps
      | some _ => .error .notDirectory
      | none => .error .missing
    else
      let next := here ++ [p]
      match ps with
      | [] => .ok next
      | _ :: _ =>
        match t.node? next with
        | some .dir => walk t next ps
        | some (.file _ _) => .error .notDirectory
        | none => .error .missing

def walkFromRoot (t : Files) (names : List String) : Except FileError Place :=
  match names.dropWhile (· == "") with
  | [] => .ok []
  | p :: ps => match t.links.lookup p with
    | some place => t.walk place ps
    | none => t.walk [] (p :: ps)

/-- The place of a path, if it can be followed. -/
def locate (t : Files) (cwd : Place) (raw : String) : Except FileError Place :=
  if raw == "" then .error .missing
  else if 4095 < raw.utf8ByteSize then .error .nameTooLong
  else
    let names := (Text.splitWhere (· == '/') raw.toList).map String.ofList
    if raw.toList.head? == some '/' then t.walkFromRoot names else t.walk cwd names

def pathTo (t : Files) (p : Place) : Path :=
  match t.links.find? fun (_, place) => place.isPrefixOf p with
  | some (name, place) => ⟨true, name :: p.drop place.length⟩
  | none => ⟨true, p⟩

/-- What is at the place of a path. -/
def stat (t : Files) (cwd : Place) (raw : String) : Except FileError Node := do
  let p ← t.locate cwd raw
  match t.node? p with
  | some n => .ok n
  | none => .error .missing

def read (t : Files) (cwd : Place) (raw : String) : Except FileError Content := do
  match ← t.stat cwd raw with
  | .file c _ => .ok c
  | .dir => .error .isDirectory

def write (t : Files) (cwd : Place) (raw : String) (c : Content) : Except FileError Files := do
  let p ← t.locate cwd raw
  match t.node? p with
  | some .dir => .error .isDirectory
  | some (.file _ x) => .ok (t.put p (.file c x))
  | none =>
    match t.node? p.dropLast with
    | some .dir => .ok (t.put p (.file c false))
    | some _ => .error .notDirectory
    | none => .error .missing

def mkdir (t : Files) (cwd : Place) (raw : String) : Except FileError Files := do
  let p ← t.locate cwd raw
  match t.node? p with
  | some _ => .error .exists
  | none =>
    match t.node? p.dropLast with
    | some .dir => .ok (t.put p .dir)
    | some _ => .error .notDirectory
    | none => .error .missing

def unlink (t : Files) (cwd : Place) (raw : String) : Except FileError Files := do
  let p ← t.locate cwd raw
  match t.node? p with
  | some (.file _ _) => .ok (t.erase p)
  | some .dir => .error .isDirectory
  | none => .error .missing

def names (t : Files) (p : Place) : List String :=
  Text.sort
    ((t.entries.filter fun e => e.1.length == p.length + 1 && e.1.take p.length == p).filterMap
    fun e => e.1.getLast?)

def list (t : Files) (cwd : Place) (raw : String) : Except FileError (List String) := do
  let p ← t.locate cwd raw
  match t.node? p with
  | some .dir => .ok (t.names p)
  | some _ => .error .notDirectory
  | none => .error .missing

def mkdirs (t : Files) (here : Place) : List String → Files
  | [] => t
  | p :: ps =>
    let next := here ++ [p]
    let t := match t.node? next with
      | none => t.put next .dir
      | some _ => t
    t.mkdirs next ps

def subdirs (t : Files) : (fuel : Nat) → Place → List (List String)
  | 0, _ => [[]]
  | fuel + 1, p =>
    [] :: (t.names p).flatMap fun n =>
      match t.node? (p ++ [n]) with
      | some .dir => (t.subdirs fuel (p ++ [n])).map (n :: ·)
      | _ => []

/-- The relative names below the directory at `p` that fit the pattern's segments; `**` stands for
any number of directories. -/
def glob (t : Files) : (segments : List String) → Place → List (List String)
  | [], _ => [[]]
  | seg :: segs, p =>
    match t.node? p with
    | some .dir =>
      if seg == "**" then
        let dirs := t.subdirs t.entries.length p
        dirs.flatMap fun d => (t.glob segs (p ++ d)).map (d ++ ·)
      else if Glob.isWild seg then
        let parts := Glob.parse seg
        ((t.names p).filter fun n => Glob.fits parts n.toList).flatMap fun n =>
          match segs, t.node? (p ++ [n]) with
          | [], _ => [[n]]
          | _, some .dir => (t.glob segs (p ++ [n])).map (n :: ·)
          | _, _ => []
      else
        match segs, t.node? (p ++ [seg]) with
        | [], some _ => [[seg]]
        | _, some .dir => (t.glob segs (p ++ [seg])).map (seg :: ·)
        | _, _ => []
    | _ => []

end Files

end Workbench
