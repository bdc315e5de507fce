import Workbench.Pattern.Reader
import Workbench.Proofs.Text.Split
import Workbench.Proofs.Text.Trim
import Workbench.Proofs.World.Calls
import Workbench.Release.Changelog

/-!
# Reading the log back

A commit is printed as its hash, its subject and its body with a bar behind the hash and behind the
subject, and with three bars at the end.
-/

open List hiding take

namespace Workbench.Release

open Text

variable {c : Commit} {lead : Chars} {cs : List Commit}

/-! ### Printed logs -/

/-- A commit as git prints it. -/
def Commit.printed (c : Commit) : String := c.hash ++ "|" ++ c.subject ++ "|" ++ c.body ++ entryEnd

/-- A log as git prints it. -/
def printedLog (cs : List Commit) : String := join "\n" (cs.map Commit.printed)

/-- A commit whose parts do not look like the marks between them. -/
structure Commit.Barless (c : Commit) : Prop where
  hash_ne : c.hash ≠ ""
  hash_hex : ∀ x ∈ c.hash.toList, Pattern.isHex x = true
  subject : '|' ∉ c.subject.toList
  body : '|' ∉ c.body.toList

instance (c : Commit) : Decidable c.Barless :=
  decidable_of_iff (c.hash ≠ "" ∧ c.hash.toList.all Pattern.isHex = true ∧ '|' ∉ c.subject.toList ∧
    '|' ∉ c.body.toList)
    ⟨fun h => ⟨h.1, all_eq_true.mp h.2.1, h.2.2.1, h.2.2.2⟩,
      fun h => ⟨h.hash_ne, all_eq_true.mpr h.hash_hex, h.subject, h.body⟩⟩

/-- The question for the commits since a tag. -/
def logCall (tag : Option String) : Argv :=
  ["git", "log", rangeSince tag, "--pretty=format:%H|%s|%b|||"]

/-- A printed commit without its end. -/
def Commit.entryChars (c : Commit) : Chars :=
  c.hash.toList ++ '|' :: (c.subject.toList ++ '|' :: c.body.toList)

/-- A commit without blanks at the end of its body. -/
def Commit.trimmed (c : Commit) : Commit := { c with body := trimEnd c.body }

/-! ### Entries -/

lemma isBlank_of_isHex {x : Char} (h : Pattern.isHex x = true) : isBlank x = false := by
  have hle : ∀ a b : Char, a ≤ b ↔ a.toNat ≤ b.toNat := fun a b => Iff.rfl
  simp only [Pattern.isHex, isAsciiDigit, Bool.or_eq_true, Bool.and_eq_true, decide_eq_true_eq, hle,
    Char.reduceToNat] at h
  exact isBlank_eq_false (by omega) (by omega)

lemma isBlank_bar : isBlank '|' = false := by decide

lemma Commit.Barless.hash_notMem (hc : c.Barless) : '|' ∉ c.hash.toList :=
  fun h => absurd (hc.hash_hex _ h) (by decide)

lemma Commit.Barless.exists_hash (hc : c.Barless) :
    ∃ x h, c.hash.toList = x :: h ∧ isBlank x = false := by
  cases hhash : c.hash.toList with
  | nil => exact absurd (String.toList_eq_nil_iff.mp hhash) hc.hash_ne
  | cons x h => exact ⟨x, h, rfl, isBlank_of_isHex (hc.hash_hex x (by simp [hhash]))⟩

lemma Commit.Barless.ofEntry? (hc : c.Barless) (hlead : ∀ x ∈ lead, isBlank x = true) :
    Commit.ofEntry? (.ofList (lead ++ c.entryChars)) = some c.trimmed := by
  obtain ⟨x, h, hhash, hx⟩ := hc.exists_hash
  have htrim : trimWhile isBlank (lead ++ c.entryChars) =
      c.hash.toList ++
        (['|'] ++ (c.subject.toList ++ (['|'] ++ dropEndWhile isBlank c.body.toList))) := by
    have hassoc : h ++ '|' :: (c.subject.toList ++ '|' :: c.body.toList) =
        (h ++ '|' :: c.subject.toList) ++ '|' :: c.body.toList := by simp
    rw [Commit.entryChars, hhash, cons_append, trimWhile_append_cons hlead hx, hassoc,
      dropEndWhile_append_cons isBlank_bar]
    simp
  have hsplit : splitChars ['|'] 2 (c.hash.toList ++ (['|'] ++ (c.subject.toList ++ (['|'] ++
      dropEndWhile isBlank c.body.toList)))) =
      [c.hash.toList, c.subject.toList, dropEndWhile isBlank c.body.toList] := by
    rw [splitChars_cut (by simp) (notWithin_of_notMem hc.hash_notMem _ _),
      splitChars_cut (by simp) (notWithin_of_notMem hc.subject _ _), splitChars_zero]
  rw [Commit.ofEntry?, trim, String.toList_ofList, htrim]
  rw [if_neg (by simp [hhash]), splitAtMost, String.toList_ofList, String.toList_ofList, hsplit]
  simp [Commit.trimmed, trimEnd]

/-- Git prints a text, whatever it is asked for. -/
def printing (text : String) : World := { respond := fun _ _ => .finished 0 text "" }

end Workbench.Release
