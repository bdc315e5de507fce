import Workbench.World.Basic

/-!
# Scripts for child processes

A script is a list of rules.  The first rule that fits a call answers it, and a rule may be good for
one call only.
-/

namespace Workbench.Script

/-- A rule: the words that a call begins with, the texts that stand in some word of it, and the
reply. -/
structure Rule where
  start : List String
  mentions : List String
  reply : Reply
  once : Bool
deriving DecidableEq, Repr

def Rule.fits (r : Rule) (argv : Argv) : Bool :=
  argv.take r.start.length == r.start && r.mentions.all fun h => argv.any fun a => Text.contains a h

def answer : List Rule → Argv → Reply × List Rule
  | [], _ => (.finished 0 "" "", [])
  | r :: rs, argv =>
    if r.fits argv then (r.reply, if r.once then rs else r :: rs)
    else
      let (reply, rest) := answer rs argv
      (reply, r :: rest)

def remaining (rules : List Rule) (calls : List Argv) : List Rule :=
  calls.foldl (fun rs c => (answer rs c).2) rules

def responder (rules : List Rule) : Responder :=
  fun before call => (answer (remaining rules before) call).1

end Workbench.Script
