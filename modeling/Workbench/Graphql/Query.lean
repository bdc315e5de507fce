import Workbench.Text.Basic

/-!
# Queries of a graph of data

What a query selects is a tree: fields, fields with selections of their own, and calls with an
input.
-/

namespace Workbench.Graphql

/-- What a query asks for. -/
inductive Selection where
  /-- A field, or anything else that is written on one line. -/
  | line (text : String)
  /-- A field with selections inside it. -/
  | inside (head : String) (inner : List Selection)
  /-- A call with the fields of its input and the selections of its answer. -/
  | call (name : String) (input : List String) (inner : List Selection)
  /-- An empty line. -/
  | gap

namespace Selection

def fields (names : List String) : List Selection := names.map .line

def flat (head inner : String) : String := s!"{head} \x7b {inner} \x7d"

def indented (depth : Nat) (text : String) : String := Text.times " " depth ++ text

def inputLines (depth : Nat) : List String → List String
  | [] => []
  | [f] => [indented depth f]
  | f :: fs => indented depth s!"{f}," :: inputLines depth fs

mutual

def lines (depth : Nat) : Selection → List String
  | .line text => [indented depth text]
  | .inside head inner =>
    indented depth s!"{head} \x7b" :: linesOfAll (depth + 2) inner ++ [indented depth "\x7d"]
  | .call name input inner =>
    indented depth s!"{name}(input: \x7b" :: inputLines (depth + 2) input
      ++ indented depth "\x7d) \x7b" :: linesOfAll (depth + 2) inner ++ [indented depth "\x7d"]
  | .gap => [""]
termination_by structural x => x

def linesOfAll (depth : Nat) : List Selection → List String
  | [] => []
  | s :: ss => lines depth s ++ linesOfAll depth ss
termination_by structural x => x

end

def text (s : Selection) : String := Text.join "\n" ("" :: lines 4 s ++ ["    "])

end Selection

end Workbench.Graphql
