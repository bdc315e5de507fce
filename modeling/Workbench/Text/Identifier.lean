import Workbench.Text.Letter

/-!
# Identifier characters

The characters that may start, and those that may continue, a name in program text.
-/

namespace Workbench.Text

def startExtraRuns : List Nat :=
  [5870,3,404,2,2193,1,21,1,49,35,2,4,3710,1,25,9,14,3,30379,10,23120,53,460,1,8,1,134,5,8234,111]

def letterNotStartRuns : List Nat :=
  [890,1,2744,1,127,1,8059,1,52782,6,406,2,116,1,1,1,1,1,1,1,1,1,1,1,1,1,1,1,287,2]

/-- Characters that may continue but not start a name: marks, digits, connectors. -/
def continueRuns : List Nat :=
  [183,1,584,112,23,1,251,5,265,45,1,1,1,2,1,2,1,1,72,11,48,31,6,1,101,7,2,6,2,2,1,4,2,10,23,1,30,
   27,91,11,15,10,33,9,9,1,24,4,1,9,1,3,1,5,43,3,60,8,42,24,1,33,54,3,1,18,1,7,10,2,2,10,17,3,56,1,
   1,7,2,2,2,3,9,1,10,2,2,10,14,1,2,3,56,1,1,5,4,2,2,3,3,1,20,12,3,1,11,3,56,1,1,8,1,3,1,3,20,2,2,
   10,10,6,1,3,56,1,1,7,2,2,2,3,7,3,10,2,2,10,18,1,59,5,3,3,1,4,9,1,14,10,16,5,55,1,1,7,1,3,1,4,7,2,
   11,2,2,10,17,3,56,1,1,7,1,3,1,4,7,2,11,2,2,10,16,4,55,2,1,7,1,3,1,4,9,1,10,2,2,10,17,3,70,1,4,6,
   1,1,1,8,6,10,2,2,61,1,1,8,12,8,1,10,87,1,1,10,11,6,2,10,62,2,6,10,11,1,1,1,1,1,4,2,49,20,1,2,5,
   11,1,36,9,1,100,20,1,10,12,4,4,3,1,3,2,7,3,4,13,12,1,15,703,3,9,9,928,4,28,3,29,2,30,2,64,32,9,1,
   2,10,33,3,1,11,143,1,118,12,4,12,10,10,128,11,60,5,57,10,1,29,2,11,6,10,22,14,1,16,49,5,47,17,11,
   10,17,9,12,3,30,13,2,10,44,14,48,20,8,10,6,10,118,3,1,21,4,1,6,1,2,3,198,64,575,2,19,1,123,13,4,
   1,3,12,3070,3,141,1,96,32,554,6,105,2,30085,10,69,1,4,10,32,2,80,2,272,1,3,1,4,1,23,5,4,1,83,2,
   50,18,10,10,6,18,13,11,28,8,25,13,44,4,47,14,15,10,11,1,10,10,47,14,12,1,8,2,2,10,33,3,50,1,1,3,
   2,2,5,2,1,1,41,5,5,2,236,8,1,2,2,10,20260,1,737,16,16,16,3,2,24,3,192,10,37,1,94,2,605,1,226,1,
   149,5,293,10,1367,3,1,2,5,4,40,3,4,1,165,2,573,4,8,10,369,2,153,11,49,4,122,3,53,15,31,11,2,2,10,
   4,45,11,7,1,45,10,6,3,36,14,1,10,5,2,44,1,12,3,48,14,8,4,1,12,82,12,6,1,160,12,5,10,6,4,55,2,1,7,
   2,2,2,3,9,1,10,2,2,7,3,5,192,18,9,10,4,1,81,20,12,10,213,7,2,9,27,2,82,17,15,10,81,13,8,10,83,15,
   4,10,242,15,165,10,70,6,1,2,2,4,1,1,1,2,12,10,119,7,2,7,3,1,28,10,40,7,1,4,8,1,9,11,46,16,405,8,
   1,8,16,10,56,22,1,14,122,6,3,1,1,2,1,7,1,1,8,10,48,5,1,2,1,5,8,10,329,4,19305,10,86,10,38,5,59,7,
   25,10,1013,1,1,55,7,4,81,1,11,2,19627,2,4705,46,2,23,542,5,3,6,8,8,2,7,30,4,148,3,1417,50,512,55,
   4,50,8,1,14,1,22,5,1,15,1360,7,1,17,2,7,1,2,1,5,261,7,9,10,356,1,61,14,1494,7,109,7,5,10,4758,10,
   787718,240]

def isNameStart (c : Char) : Bool :=
  if c.toNat < 128 then isLetter c || c == '_'
  else (isLetter c && !inRuns c.toNat letterNotStartRuns) || inRuns c.toNat startExtraRuns

def isNameContinue (c : Char) : Bool :=
  isNameStart c || (if c.toNat < 128 then '0' ≤ c && c ≤ '9' else inRuns c.toNat continueRuns)

end Workbench.Text
