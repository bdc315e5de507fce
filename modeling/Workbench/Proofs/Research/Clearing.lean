import Mathlib.Data.List.Basic
import Workbench.Proofs.World.Exec
import Workbench.Proofs.World.Frames
import Workbench.Proofs.World.Loops
import Workbench.Proofs.World.Names
import Workbench.Research.Cache
import Workbench.Research.Entry
import Workbench.Yaml.Document

/-!
# Clearing a category of the cache

A listing loads the files of some folders one by one and leaves out those that cannot be loaded;
then it sorts what it has loaded by date.  Clearing a category lists it, takes away nothing and says
so (`clear_category_keeps_all`).
-/

open List Except

namespace Workbench.Research

open Tool Files

variable {w w' : World} {what : String} {file : Path}

/-! ### What a file is read as -/

/-- The entry that a text is read as. -/
def Entry.ofText (file : Path) (text : String) : Result Entry :=
  match splitFront? text with
  | none => .ok ⟨file, .map [], text⟩
  | some (front, rest) =>
    match Yaml.parse front with
    | .ok v => .ok ⟨file, v, Text.trim rest⟩
    | .error e => if isBadFront e then .ok ⟨file, .map [], text⟩ else .error e

/-- What is answered for a file. -/
def Entry.answer (what : String) (file : Path) (there : Result Bool) (text : Result String) :
    Result Entry := do
  if !(← there) then throw (.noFile (what ++ " file not found: " ++ file.toString))
  Entry.ofText file (← text)

/-- The entry that a file is read as. -/
def readAs (w : World) (what : String) (file : Path) : Result Entry :=
  Entry.answer what file ((Tool.pathExists file.toString).exec w).1
    ((Tool.readText file.toString).exec w).1

lemma tells_load (hw : w.memory = none) : (Entry.load what file).Tells w (readAs w what file) := by
  have htext : ∀ text, (match splitFront? text with
      | none => (return ⟨file, .map [], text⟩ : Tool Entry)
      | some (front, rest) => Tool.recallDocument Yaml.parse front >>= fun
        | .ok v => return ⟨file, v, Text.trim rest⟩
        | .error e =>
          if isBadFront e then do
            Tool.say ("Warning: Could not parse YAML frontmatter: " ++ e.message)
            return ⟨file, .map [], text⟩
          else throw e).Tells w (Entry.ofText file text) := by
    intro text
    rw [Entry.ofText]
    rcases splitFront? text with _ | ⟨front, rest⟩
    · exact tells_pure _ w
    have hparse : (Tool.recallDocument Yaml.parse front).Tells w (.ok (Yaml.parse front)) :=
      fun w₁ hw₁ => ⟨w₁, exec_recallDocument (hw₁.memory.trans hw) _ _, hw₁⟩
    refine hparse.bind_ok ?_
    dsimp only
    rcases Yaml.parse front with e | v
    · dsimp only
      split_ifs
      · exact (tells_say _ w).bind_ok (tells_pure _ w)
      · exact tells_lift (.error e) w
    · exact tells_pure _ w
  have hrecall : (Tool.recallText file.toString).Tells w
      ((Tool.readText file.toString).exec w).1 := by
    intro w₁ hw₁
    rw [exec_recallText (hw₁.memory.trans hw)]
    exact (sees_readText _).tells rfl w₁ hw₁
  refine ((sees_pathExists file.toString).tells rfl).bind fun there _ => ?_
  cases there with
  | false => exact (tells_lift (.error _) w).bind_error
  | true => exact hrecall.bind fun text _ => htext text

/-! ### Listing -/

/-- What a listing makes of a file: the entry if it is to be kept, and nothing if there was a fault
that can be caught. -/
def taken (keep : Entry → Result Bool) (x : Result Entry) : Result (Option Entry) :=
  (do
    let e ← x
    if ← keep e then return some e
    else return none).tryCatch fun f => if !f.isExit then .ok none else .error f

lemma tells_loadAll (hw : w.memory = none) {keep : Entry → Result Bool} {test : Entry → Tool Bool}
    (htest : ∀ e, (test e).Tells w (keep e)) (files : List Path) :
    (loadAll what test files).Tells w
      (do return (← files.mapM fun f => taken keep (readAs w what f)).filterMap fun o => o) := by
  refine (tells_mapM fun f _ => ?_).bind fun os _ => tells_pure _ w
  refine Tool.Tells.guarded ((tells_load hw).bind fun e _ => (htest e).bind fun b _ => ?_) fun f =>
    (tells_complain _ w).bind_ok (tells_pure none w)
  cases b <;> exact tells_pure _ w

/-- The entries that are found in directories. -/
def gathered {ι : Type} (files : ι → Result (List Path)) (take : Path → Result (Option Entry))
    (ds : List ι) :
    Result (List (List Entry)) :=
  ds.mapM fun d => do return (← (← files d).mapM take).filterMap fun o => o

namespace Cache

/-! ### The cache -/

/-- Where the cache is kept. -/
def root (w : World) : Path := w.base / ".research-cache"

/-- The categories that are looked through. -/
def searched (category : Option String) : List String :=
  match category with
  | some c => [c]
  | none => categories

/-- The files of a category. -/
def filesIn (w : World) (c : String) : Result (List Path) := do
  if ← ((pathExists (root w / c).toString).exec w).1 then ((glob (root w / c) ["*.md"]).exec w).1
  else return []

/-- The entry is listed. -/
def keeps (showExpired : Bool) (now : Calendar.DateTime) (e : Entry) : Result Bool :=
  if showExpired then .ok true else do return !(← isExpired e now)

/-- The entries of a cache, the newest first. -/
def listed (w : World) (category : Option String) (showExpired : Bool) : Result (List Entry) :=
  gathered (filesIn w) (fun f => taken (keeps showExpired w.now) (readAs w "Cache" f))
    (searched category) >>=
    fun found => newestFirst found.flatten

lemma tells_list (hw : w.memory = none) (category : Option String) (showExpired : Bool) :
    (list category showExpired).Tells w (listed w category showExpired) := by
  have hdir : cacheDir.Tells w (.ok (root w)) := by
    rintro _ ⟨out, err, rfl⟩
    exact ⟨_, rfl, out, err, rfl⟩
  have hnow : now.Tells w (.ok w.now) := by
    rintro _ ⟨out, err, rfl⟩
    exact ⟨_, rfl, out, err, rfl⟩
  have htest :
      ∀ e, (if showExpired then pure true else do return !(← isExpired e w.now) : Tool Bool).Tells w
      (keeps showExpired w.now e) := by
    intro e
    rw [keeps]
    split_ifs
    · exact tells_pure _ w
    · exact (tells_lift _ w).bind fun b _ => tells_pure _ w
  refine hdir.bind_ok (hnow.bind_ok ?_)
  refine (tells_mapM fun c _ => ?_).bind fun found _ => tells_lift _ w
  rw [filesIn]
  rcases hthere : ((pathExists (root w / c).toString).exec w).1 with e | there
  · exact ((sees_pathExists _).tells (Prod.ext hthere rfl)).bind_error
  refine ((sees_pathExists _).tells (Prod.ext hthere rfl)).bind_ok ?_
  cases there with
  | false => exact tells_pure _ w
  | true => exact ((sees_glob _ _).tells rfl).bind fun fs _ => tells_loadAll hw htest fs

/-! ### The commands -/

/-- The command lists the cache, makes `t` of its tree and says last that it has cleared `n`
entries. -/
def Clears (argv : List String) (category : Option String) (w : World) (n : Nat) (t : Files)
    (w' : World) : Prop :=
  (command argv).exec w = (.ok (), w') ∧ ∃ es w₀, (list category true).exec w = (.ok es, w₀) ∧
    w' = { w₀ with files := t, out := w₀.out ++ (s!"✓ Cleared {n} cache entries" ++ "\n") }

/-! ### Clearing a category -/

lemma clear_nothing (category : Option String) : clear false false category = (do
    let _ ← now
    let gone ← (← list category true).filterM fun _ => pure false
    return gone.length) := rfl

lemma command_category {c : String} (hc : c ∈ categories) : command ["clear", "--category", c] =
    (clear false false (some c) >>= fun n => say s!"✓ Cleared {n} cache entries") := by
  simp only [categories, mem_cons, not_mem_nil, or_false] at hc
  rcases hc with rfl | rfl | rfl | rfl <;> rfl

/-- What clearing a category is meant to do: the category has no entries left, other categories have
the files they had, and the number of cleared entries is said. -/
structure Emptied (w : World) (c : String) (n : Nat) (w' : World) : Prop where
  empty : ∃ w₂, (list (some c) true).exec w' = (.ok [], w₂)
  others : ∀ d ∈ categories, d ≠ c → ∀ name, IsName name →
    w'.files.node? (w.place (root w / d / name).toString) =
      w.files.node? (w.place (root w / d / name).toString)
  count : ∃ t, Clears ["clear", "--category", c] (some c) w n t w'

/-- Clearing a category clears nothing: all files stay, and it is said that no entry was cleared.
So it does what it is meant to do only where the category has no entries.  Where the entries cannot
be listed it fails. -/
theorem clear_category_keeps_all (hw : w.memory = none) {c : String} (hc : c ∈ categories) :
    (∀ es w₀, (list (some c) true).exec w = (.ok es, w₀) →
      ∃ w', Clears ["clear", "--category", c] (some c) w 0 w.files w' ∧
        (∃ w₂, (list (some c) true).exec w' = (.ok es, w₂)) ∧
          (Emptied w c es.length w' ↔ es = [])) ∧
    ∀ fault w₀, (list (some c) true).exec w = (.error fault, w₀) →
      (command ["clear", "--category", c]).exec w = (.error fault, w₀) ∧ w₀.files = w.files := by
  have htells := tells_list hw (some c) true
  refine ⟨fun es w₀ hlist => ?_, fun fault w₀ hlist => ?_⟩
  · obtain ⟨hes, hstill⟩ := htells.eq hlist
    have hclear : (clear false false (some c)).exec w = (.ok 0, w₀) := by
      rw [clear_nothing, exec_bind_ok (exec_now w), exec_bind_ok hlist,
        exec_bind_ok (exec_filterM_false es w₀)]
      rfl
    obtain ⟨out, err, rfl⟩ := hstill
    have hclears : Clears ["clear", "--category", c] (some c) w 0 w.files
        { w with out := out ++ (s!"✓ Cleared {0} cache entries" ++ "\n"), err := err } := by
      refine ⟨?_, es, _, hlist, rfl⟩
      rw [command_category hc, exec_bind_ok hclear, exec_say]
    obtain ⟨w₂, hagain, -⟩ := htells _ ⟨_, _, rfl⟩
    rw [← hes] at hagain
    refine ⟨_, hclears, ⟨w₂, hagain⟩, fun h => ?_, ?_⟩
    · obtain ⟨w₃, hempty⟩ := h.empty
      exact ok.inj (Prod.mk.inj (hagain.symm.trans hempty)).1
    · rintro rfl
      exact ⟨⟨w₂, hagain⟩, fun _ _ _ _ _ => rfl, w.files, hclears⟩
  · obtain ⟨-, out, err, rfl⟩ := htells.eq hlist
    refine ⟨?_, rfl⟩
    rw [command_category hc, clear_nothing, exec_bind_error]
    rw [exec_bind_ok (exec_now w), exec_bind_error hlist]

/-- A folder with one entry. -/
def shelf (root folder : String) : World where
  files :=
    { entries := [([root], .dir), ([root, folder], .dir),
      ([root, folder, "a.md"], .file (.text "fine") false)] }

/-- The entry in the category is listed, and no command has cleared it. -/
theorem shelf_not_emptied : ∃ es w₀ w',
    (list (some "patterns") true).exec (shelf ".research-cache" "patterns") = (.ok es, w₀) ∧
    (command ["clear", "--category", "patterns"]).exec (shelf ".research-cache" "patterns") =
      (.ok (), w') ∧
    ¬ Emptied (shelf ".research-cache" "patterns") "patterns" es.length w' := by
  have hsome : ((list (some "patterns") true).exec
      (shelf ".research-cache" "patterns")).1.toOption.any (! ·.isEmpty) := by
    decide +kernel
  obtain ⟨es, w₀, hlist, hes⟩ := exists_of_any hsome
  obtain ⟨w', hclears, -, hiff⟩ := (clear_category_keeps_all rfl (by decide)).1 es w₀ hlist
  refine ⟨es, w₀, w', hlist, hclears.1, fun h => ?_⟩
  rw [hiff.mp h] at hes
  cases hes

end Cache

end Workbench.Research
