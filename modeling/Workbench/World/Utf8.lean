import Workbench.Text.Quoted

/-!
# Decoding UTF-8

Bytes to text.
-/

namespace Workbench.Utf8

/-- Why bytes are no text. -/
inductive Reason where
  | start
  | continuation
  | unexpectedEnd
deriving DecidableEq, Repr

/-- The bytes that are no text. -/
structure Error where
  byte : UInt8
  first : Nat
  last : Nat
  reason : Reason
deriving DecidableEq, Repr

def Reason.text : Reason → String
  | .start => "invalid start byte"
  | .continuation => "invalid continuation byte"
  | .unexpectedEnd => "unexpected end of data"

def Error.message (e : Error) : String :=
  "'utf-8' codec can't decode " ++
    (if e.first == e.last then
      "byte 0x" ++ .ofList (Text.hex 2 e.byte.toNat) ++ " in position " ++ toString e.first
    else "bytes in position " ++ toString e.first ++ "-" ++ toString e.last)
    ++ ": " ++ e.reason.text

/-- The range that the second byte must lie in, and the number of bytes that follow the first. -/
def lead (b : Nat) : Option (Nat × Nat × Nat) :=
  if 0xC2 ≤ b && b ≤ 0xDF then some (0x80, 0xBF, 1)
  else if b == 0xE0 then some (0xA0, 0xBF, 2)
  else if b == 0xED then some (0x80, 0x9F, 2)
  else if 0xE1 ≤ b && b ≤ 0xEF then some (0x80, 0xBF, 2)
  else if b == 0xF0 then some (0x90, 0xBF, 3)
  else if 0xF1 ≤ b && b ≤ 0xF3 then some (0x80, 0xBF, 3)
  else if b == 0xF4 then some (0x80, 0x8F, 3)
  else none

def goodTail (lo hi : Nat) : Nat → List UInt8 → Nat
  | 0, _ => 0
  | _, [] => 0
  | n + 1, b :: bs => if lo ≤ b.toNat && b.toNat ≤ hi then 1 + goodTail 0x80 0xBF n bs else 0

def codePoint (b n : Nat) (tail : List UInt8) : Nat :=
  tail.foldl (fun acc t => acc * 64 + t.toNat % 64) (b % Nat.pow 2 (6 - n))

/-- Decodes; `skip` counts bytes of a character already taken, `pos` is the position of the next
byte. -/
def decodeLoop : (skip pos : Nat) → (acc : Chars) → List UInt8 → Except Error Chars
  | _, _, acc, [] => .ok acc.reverse
  | skip + 1, pos, acc, _ :: bs => decodeLoop skip (pos + 1) acc bs
  | 0, pos, acc, b :: bs =>
    if b.toNat < 128 then decodeLoop 0 (pos + 1) (Char.ofNat b.toNat :: acc) bs
    else match lead b.toNat with
      | none => .error ⟨b, pos, pos, .start⟩
      | some (lo, hi, n) =>
        let k := goodTail lo hi n bs
        if k == n then
          decodeLoop n (pos + 1) (Char.ofNat (codePoint b.toNat n (bs.take n)) :: acc) bs
        else .error ⟨b, pos, pos + k, if k == bs.length then .unexpectedEnd else .continuation⟩

def decode (bs : List UInt8) : Except Error String := (decodeLoop 0 0 [] bs).map String.ofList

end Workbench.Utf8
