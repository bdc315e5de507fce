import Workbench.World.Basic

/-!
# Colours and notices

The marks that colour a terminal, and coloured one-line messages of four kinds.  An error also ends
the tool.
-/

namespace Workbench.Color

def red : String := "\x1b[0;31m"
def green : String := "\x1b[0;32m"
def yellow : String := "\x1b[1;33m"
def darkYellow : String := "\x1b[0;33m"
def blue : String := "\x1b[0;34m"
def cyan : String := "\x1b[0;36m"
def bold : String := "\x1b[1m"
def plain : String := "\x1b[0m"

def paint (color text : String) : String := color ++ text ++ plain

end Workbench.Color

namespace Workbench.Notice

open Tool Color

def success (text : String) : Tool Unit := say (paint green ("✓ " ++ text))

def warn (text : String) : Tool Unit := say (paint yellow ("⚠ " ++ text))

def inform (text : String) : Tool Unit := say (paint blue ("ℹ " ++ text))

def fail {α : Type} (text : String) : Tool α := do
  complain (paint red ("Error: " ++ text))
  exit 1

end Workbench.Notice
