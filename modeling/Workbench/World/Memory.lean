import Workbench.World.Basic

/-!
# Remembered files and documents

A world may remember texts that were read and documents that were parsed.
-/

namespace Workbench

def Memory.learn (m : Memory) (raw text : String) : Memory :=
  { m with texts := (raw, text) :: m.texts }

def Memory.forget (m : Memory) (raw : String) : Memory :=
  { m with texts := m.texts.filter fun e => e.1 != raw }

def Memory.file (m : Memory) (text : String) (v : Value) : Memory :=
  { m with documents := (text, v) :: m.documents.filter fun e => e.1 != text }

namespace Tool

def onMemory (f : Memory → Memory) : Tool Unit :=
  modify fun w => { w with memory := w.memory.map f }

def recallText (raw : String) : Tool String := do
  match (← get).memory.bind fun m => m.texts.lookup raw with
  | some text => return text
  | none =>
    let text ← readText raw
    onMemory (·.learn raw text)
    return text

def keepText (raw text : String) : Tool Unit := do
  writeText raw text
  onMemory (·.forget raw)

def recallDocument (parse : String → Result Value) (text : String) : Tool (Result Value) := do
  match (← get).memory.bind fun m => m.documents.lookup text with
  | some v => return .ok v
  | none =>
    match parse text with
    | .ok v =>
      onMemory (·.file text v)
      return .ok v
    | .error e => return .error e

def amendDocument (text : String) (v : Value) : Tool Unit := onMemory (·.file text v)

end Tool

end Workbench
