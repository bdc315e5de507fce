import Mathlib.Algebra.BigOperators.Group.List.Basic
import Mathlib.Algebra.Ring.Int.Defs
import Workbench.Commit.Grouping
import Workbench.Pattern.Reader
import Workbench.Proofs.Pattern.Matching
import Workbench.Proofs.Release.Kinds
import Workbench.Proofs.Text.Split
import Workbench.Proofs.Text.Trim
import Workbench.Proofs.Value.Entries
import Workbench.Proofs.World.Loops

/-!
# Groups of changes, subjects and messages

Changes of one type and one scope make up a group.  The groups are a partition of the changes, and
what is told of them, their order included, depends on the changes alone and not on how these are
listed (`groups_canonical`).

The strict form of a subject is that of its pattern, but the check of subjects lets more pass: where
the form is missing it looks for four faults only (`compliance_is_pattern_iff`).  The check of
messages wants a type with a colon or an opening parenthesis right behind it.  What this leaves of
subjects of the strict form, and of the messages that are suggested for groups of files.
-/

open List

namespace Workbench.Commit.Grouping

/-! ### Parts of a list -/

section Parts

variable {α β : Type} [BEq α] [LawfulBEq α] {key : β → α} {xs : List β}

lemma groupBy_eq (key : β → α) (xs : List β) :
    groupBy key xs = (xs.map key).eraseDups.map fun k => (k, xs.filter (key · == k)) := by
  rw [groupBy, ← foldl_eq_eraseDups, foldl_map]

/-- The parts of a list that belong to its keys make up the list. -/
lemma perm_flatMap_filter {ks : List α} (hks : ks.Nodup) (h : ∀ x ∈ xs, key x ∈ ks) :
    ks.flatMap (fun k => xs.filter (key · == k)) ~ xs := by
  induction ks generalizing xs with
  | nil =>
    obtain rfl : xs = [] := eq_nil_iff_forall_not_mem.mpr fun x hx => not_mem_nil (h x hx)
    exact .refl _
  | cons k ks ih =>
    obtain ⟨hk, hks⟩ := nodup_cons.mp hks
    -- The other parts are those of what is left without the first one.
    have hother : ks.flatMap (fun k' => xs.filter (key · == k')) =
        ks.flatMap fun k' => (xs.filter (!key · == k)).filter (key · == k') := by
      refine flatMap_congr fun k' hk' => ?_
      rw [filter_filter]
      refine filter_congr fun x _ => ?_
      have hne : k' ≠ k := fun heq => hk (heq ▸ hk')
      by_cases hx : key x = k' <;> simp [hx, hne]
    have hrest : ∀ x ∈ xs.filter (!key · == k), key x ∈ ks := by
      intro x hx
      obtain ⟨hmem, hne⟩ := mem_filter.mp hx
      exact (mem_cons.mp (h x hmem)).resolve_left (by simpa using hne)
    rw [flatMap_cons, hother]
    exact ((ih hks hrest).append_left _).trans (filter_append_perm _ xs)

end Parts

/-! ### Changes and their groups -/

/-- What a change is grouped by. -/
def Change.key (c : Change) : String × String := (c.type, c.scope)

/-- What the changes of a group have in common. -/
def Group.key (g : Group) : String × String := (g.type, g.scope)

/-- The changes with a key. -/
def groupOf (cs : List Change) (k : String × String) : Group := ⟨k.1, k.2, cs.filter (·.key == k)⟩

/-- What is told of a group besides its files. -/
def Group.summary (g : Group) : String × String × Nat × Int × Int :=
  (g.type, g.scope, g.size, g.added, g.removed)

variable {cs ds : List Change} {g : Group}

lemma perm_groups (cs : List Change) :
    groups cs ~ (cs.map Change.key).eraseDups.map (groupOf cs) := by
  refine (mergeSort_perm _ _).trans ?_
  rw [groupBy_eq, map_map]
  exact .refl _

lemma mem_groups_iff : g ∈ groups cs ↔ ∃ c ∈ cs, g = groupOf cs c.key := by
  rw [(perm_groups cs).mem_iff, mem_map]
  simp only [mem_eraseDups, mem_map]
  constructor
  · rintro ⟨_, ⟨c, hc, rfl⟩, rfl⟩
    exact ⟨c, hc, rfl⟩
  · rintro ⟨c, hc, rfl⟩
    exact ⟨_, ⟨c, hc, rfl⟩, rfl⟩

lemma perm_keys (cs : List Change) : (groups cs).map Group.key ~ (cs.map Change.key).eraseDups := by
  refine ((perm_groups cs).map Group.key).trans ?_
  rw [map_map]
  exact .of_eq (map_id _)

lemma changes_eq (hg : g ∈ groups cs) :
    g.changes = cs.filter fun c => c.type = g.type ∧ c.scope = g.scope := by
  obtain ⟨d, -, rfl⟩ := mem_groups_iff.mp hg
  refine filter_congr fun c _ => ?_
  rw [Bool.eq_iff_iff, beq_iff_eq, decide_eq_true_eq]
  exact Prod.ext_iff

lemma exists_of_mem_groups (hg : g ∈ groups cs) :
    (∃ c, c ∈ g.changes) ∧ ∀ c ∈ g.changes, c.type = g.type := by
  obtain ⟨d, hd, rfl⟩ := mem_groups_iff.mp hg
  refine ⟨⟨d, mem_filter.mpr ⟨hd, beq_self_eq_true _⟩⟩, fun c hc => ?_⟩
  exact congrArg Prod.fst (beq_iff_eq.mp (mem_filter.mp hc).2)

lemma perm_flatMap_changes (cs : List Change) : (groups cs).flatMap Group.changes ~ cs := by
  refine ((perm_groups cs).flatMap_right _).trans ?_
  rw [flatMap_map]
  exact perm_flatMap_filter (nodup_eraseDups _) fun c hc => mem_eraseDups.mpr (mem_map_of_mem hc)

/-! ### The order of groups -/

/-- Groups with the first key come before those with the second. -/
def Ahead (a b : String × String) : Prop :=
  Group.rank a.1 < Group.rank b.1 ∨ (Group.rank a.1 = Group.rank b.1 ∧ Text.lt a.2 b.2 = true)

instance (a b : String × String) : Decidable (Ahead a b) := inferInstanceAs (Decidable (_ ∨ _))

lemma Ahead.asymm {a b : String × String} (h : Ahead a b) : ¬ Ahead b a := by
  rintro (hba | ⟨heq, hba⟩)
  · rcases h with hab | ⟨heq, -⟩ <;> omega
  · rcases h with hab | ⟨-, hab⟩
    · omega
    · exact List.lt_asymm (of_decide_eq_true hab) (of_decide_eq_true hba)

lemma Group.le_iff (a b : Group) : a.le b = true ↔ Group.rank a.type < Group.rank b.type ∨
    (Group.rank a.type = Group.rank b.type ∧ List.le a.scope.toList b.scope.toList) := by
  rw [Group.le, ← Text.le_iff]
  split_ifs with hrank
  · simp [beq_iff_eq.mp hrank]
  · have hne : Group.rank a.type ≠ Group.rank b.type := fun h => hrank (beq_iff_eq.mpr h)
    simp [hne]

lemma Group.le_trans (a b c : Group) (hab : a.le b = true) (hbc : b.le c = true) :
    a.le c = true := by
  rw [Group.le_iff] at *
  rcases hab with hab | ⟨hab, hle⟩ <;> rcases hbc with hbc | ⟨hbc, hle'⟩
  · exact .inl (hab.trans hbc)
  · exact .inl (hbc ▸ hab)
  · exact .inl (hab ▸ hbc)
  · exact .inr ⟨hab.trans hbc, List.le_trans hle hle'⟩

lemma Group.le_total (a b : Group) : (a.le b || b.le a) = true := by
  rw [Bool.or_eq_true, Group.le_iff, Group.le_iff]
  rcases Nat.lt_trichotomy (Group.rank a.type) (Group.rank b.type) with h | h | h
  · exact .inl (.inl h)
  · rcases List.le_total a.scope.toList b.scope.toList with hle | hle
    · exact .inl (.inr ⟨h, hle⟩)
    · exact .inr (.inr ⟨h.symm, hle⟩)
  · exact .inr (.inl h)

/-- The types that a change can have. -/
def changeTypes : List String := ["feat", "fix", "refactor", "test", "docs", "config"]

lemma type_mem_changeTypes (c : Change) : c.type ∈ changeTypes := by
  have hkinds : ∀ kind ∈ typePatterns, kind.1 ∈ changeTypes := by decide
  rw [Change.type, typeOf]
  cases hpath : typeOfPath? c.path with
  | none =>
    rw [Option.getD_none, typeOfSize]
    split_ifs <;> decide
  | some type =>
    obtain ⟨kind, hkind, rfl⟩ := Option.map_eq_some_iff.mp hpath
    exact hkinds kind (mem_of_find?_eq_some hkind)

lemma type_eq_of_rank_eq {c d : Change} (h : Group.rank c.type = Group.rank d.type) :
    c.type = d.type := by
  have hranks : ∀ a ∈ changeTypes, ∀ b ∈ changeTypes, Group.rank a = Group.rank b → a = b := by
    decide
  exact hranks _ (type_mem_changeTypes c) _ (type_mem_changeTypes d) h

lemma pairwise_ahead (cs : List Change) : (groups cs).Pairwise fun a b => Ahead a.key b.key := by
  have hsorted : (groups cs).Pairwise fun a b => a.le b = true :=
    pairwise_mergeSort Group.le_trans Group.le_total _
  have hdistinct : ((groups cs).map Group.key).Nodup :=
    (perm_keys cs).nodup_iff.mpr (nodup_eraseDups _)
  refine (hsorted.and (pairwise_map.mp hdistinct)).imp_of_mem fun {a b} ha hb ⟨hle, hne⟩ => ?_
  obtain ⟨c, -, rfl⟩ := mem_groups_iff.mp ha
  obtain ⟨d, -, rfl⟩ := mem_groups_iff.mp hb
  rcases (Group.le_iff _ _).mp hle with hlt | ⟨hrank, hscope⟩
  · exact .inl hlt
  · refine .inr ⟨hrank, ?_⟩
    by_contra hnot
    have hback : List.le d.scope.toList c.scope.toList := fun hlt => hnot (decide_eq_true hlt)
    exact hne (Prod.ext (type_eq_of_rank_eq hrank)
      (String.toList_injective (List.le_antisymm hscope hback)))

/-! ### What is told of groups -/

/-- The value tells the group, its files one by one and their number and sizes. -/
structure Group.Told (g : Group) (v : Value) : Prop where
  type : v.field "type" = .ok g.type
  scope : v.field "scope" = .ok g.scope
  files : ∃ fs, v.field "files" = .ok (.list fs) ∧
    Forall₂ (fun f c => Change.ofValue f = .ok c) fs g.changes
  count : v.field "file_count" = .ok g.changes.length
  added : v.field "lines_added" = .ok (.int (g.changes.map Change.added).sum)
  removed : v.field "lines_removed" = .ok (.int (g.changes.map Change.removed).sum)
  total : v.field "total_changes" = .ok (.int (g.changes.map Change.total).sum)

lemma Group.told_value (g : Group) : g.Told g.value where
  type := rfl
  scope := rfl
  files := ⟨_, rfl, forall₂_map_left_iff.mpr (forall₂_same.mpr fun _ _ => rfl)⟩
  count := rfl
  added := rfl
  removed := rfl
  total := congrArg (fun n => Except.ok (Value.int n)) sum_map_add.symm

lemma summary_groupOf (h : cs ~ ds) (k : String × String) :
    (groupOf cs k).summary = (groupOf ds k).summary := by
  have hchanges : cs.filter (·.key == k) ~ ds.filter (·.key == k) := h.filter _
  have hadded : (groupOf cs k).added = (groupOf ds k).added := (hchanges.map Change.added).sum_eq
  have hremoved : (groupOf cs k).removed = (groupOf ds k).removed :=
    (hchanges.map Change.removed).sum_eq
  have hsize : (groupOf cs k).size = (groupOf ds k).size := hchanges.length_eq
  rw [Group.summary, Group.summary, hadded, hremoved, hsize]
  rfl

lemma perm_summaries (h : cs ~ ds) :
    (groups cs).map Group.summary ~ (groups ds).map Group.summary := by
  have hkeys : (cs.map Change.key).eraseDups ~ (ds.map Change.key).eraseDups :=
    (perm_ext_iff_of_nodup (nodup_eraseDups _) (nodup_eraseDups _)).mpr fun k => by
      rw [mem_eraseDups, mem_eraseDups, (h.map _).mem_iff]
  calc (groups cs).map Group.summary
      ~ (cs.map Change.key).eraseDups.map (Group.summary ∘ groupOf cs) :=
        map_map ▸ (perm_groups cs).map _
    _ = (cs.map Change.key).eraseDups.map (Group.summary ∘ groupOf ds) := by
      rw [show Group.summary ∘ groupOf cs =
        Group.summary ∘ groupOf ds from funext (summary_groupOf h)]
    _ ~ (ds.map Change.key).eraseDups.map (Group.summary ∘ groupOf ds) := hkeys.map _
    _ ~ (groups ds).map Group.summary := map_map ▸ ((perm_groups ds).map _).symm

/-- What is told of the groups is known from what is told of them in some order. -/
lemma summaries_eq {ts : List (String × String × Nat × Int × Int)}
    (h : (groups cs).map Group.summary ~ ts)
    (hts : ts.Pairwise fun a b => Ahead (a.1, a.2.1) (b.1, b.2.1)) :
    (groups cs).map Group.summary = ts :=
  Perm.eq_of_pairwise (fun _ _ _ _ hab hba => absurd hba hab.asymm)
    (pairwise_map.mpr (pairwise_ahead cs)) hts h

/-- The changes are parted into the groups. -/
structure IsPartition (cs : List Change) (gs : List Group) : Prop where
  full : ∀ g ∈ gs, g.changes ≠ []
  distinct : (gs.map Group.key).Nodup
  members : ∀ g ∈ gs, g.changes = cs.filter fun c => c.type = g.type ∧ c.scope = g.scope
  whole : gs.flatMap Group.changes ~ cs
  told : ∀ g ∈ gs, g.Told g.value
  ordered : gs.Pairwise fun a b => Ahead a.key b.key

/-- The groups of changes are full and distinct, hold each change just as often as it is listed and
in the order in which it is listed, each in the group of its type and scope, and are in order.  What
is told of them besides their files is the same for the changes in any order. -/
theorem groups_canonical (cs : List Change) :
    IsPartition cs (groups cs) ∧ ∀ ds, cs ~ ds →
      (groups ds).map Group.summary = (groups cs).map Group.summary := by
  refine ⟨⟨fun g hg => ?_, ?_, fun g hg => changes_eq hg, perm_flatMap_changes cs,
    fun g _ => g.told_value, pairwise_ahead cs⟩, fun ds h => ?_⟩
  · obtain ⟨⟨c, hc⟩, -⟩ := exists_of_mem_groups hg
    exact ne_nil_of_mem hc
  · exact (perm_keys cs).nodup_iff.mpr (nodup_eraseDups _)
  · exact summaries_eq (perm_summaries h.symm) (pairwise_map.mpr (pairwise_ahead cs))

def readme : Change := ⟨"README.md", 2, 1⟩

def jwt : Change := ⟨"src/auth/jwt.ts", 5, 0⟩

def token : Change := ⟨"src/auth/token.ts", 1, 0⟩

/-- Three changes in another order make up the same groups. -/
theorem groups_canonical_shuffled : [readme, jwt, token] ~ [token, readme, jwt] ∧
    IsPartition [readme, jwt, token] (groups [readme, jwt, token]) ∧
    (groups [token, readme, jwt]).map Group.summary =
      (groups [readme, jwt, token]).map Group.summary ∧
    (groups [readme, jwt, token]).map Group.summary =
      [("feat", "auth", 2, 6, 0), ("docs", "root", 1, 2, 1)] := by
  have hshuffled : [readme, jwt, token] ~ [token, readme, jwt] :=
    perm_append_singleton token [readme, jwt]
  have hlisted : ([readme, jwt, token].map Change.key).eraseDups.map
      (Group.summary ∘ groupOf [readme, jwt, token]) =
      [("docs", "root", 1, 2, 1), ("feat", "auth", 2, 6, 0)] := by decide +kernel
  have hsummaries := (perm_groups [readme, jwt, token]).map Group.summary
  rw [map_map, hlisted] at hsummaries
  obtain ⟨hparts, hsame⟩ := groups_canonical [readme, jwt, token]
  exact ⟨hshuffled, hparts, hsame _ hshuffled,
    summaries_eq (hsummaries.trans (.swap ..)) (by decide)⟩

end Workbench.Commit.Grouping

namespace Workbench.Commit

open Text Pattern

variable {s t r : Chars} {c : Char}

/-- What is said of a message without a type. -/
def missingType : String := "Missing valid type. Use one of: " ++ join ", " types

/-! ### The word at the front -/

lemma isLower_of_mem_types : ∀ type ∈ types, type ≠ "" ∧ ∀ x ∈ type.toList, x.isLower = true := by
  have hall : ∀ type ∈ types, type ≠ "" ∧ type.toList.all Char.isLower = true := by decide
  simpa only [all_eq_true] using hall

lemma toNat_of_isLower (h : c.isLower = true) : 97 ≤ c.toNat ∧ c.toNat ≤ 122 := by
  obtain ⟨hlow, hhigh⟩ := Bool.and_eq_true_iff.mp h
  exact ⟨UInt32.le_iff_toNat_le.mp (of_decide_eq_true hlow),
    UInt32.le_iff_toNat_le.mp (of_decide_eq_true hhigh)⟩

lemma front_concat_iff (ht : ∀ x ∈ t, x.isLower = true) (hc : c.isLower = false) :
    t ++ [c] <+: s ↔ s.takeWhile Char.isLower = t ∧ (s.dropWhile Char.isLower).head? = some c := by
  constructor
  · rintro ⟨r, rfl⟩
    have hsign : ∀ x ∈ (c :: r).head?, x.isLower = false := by simpa using hc
    rw [append_assoc]
    exact ⟨takeWhile_run ht hsign, by rw [singleton_append, dropWhile_run ht hsign, head?_cons]⟩
  · rintro ⟨rfl, hhead⟩
    obtain ⟨r, hr⟩ := head?_eq_some_iff.mp hhead
    exact ⟨r, by rw [append_assoc, singleton_append, ← hr, takeWhile_append_dropWhile]⟩

lemma exists_front_iff (ht : ∀ x ∈ t, x.isLower = true) (hc : c.isLower = false) {d : Char}
    (hd : d.isLower = false) :
    (∃ type ∈ types, type.toList ++ [d] <+: t ++ c :: r) ↔ .ofList t ∈ types ∧ c = d := by
  have hsign : ∀ x ∈ (c :: r).head?, x.isLower = false := by simpa using hc
  have hfront : ∀ type ∈ types,
      (type.toList ++ [d] <+: t ++ c :: r ↔ .ofList t = type ∧ c = d) := by
    intro type htype
    rw [front_concat_iff (isLower_of_mem_types type htype).2 hd, takeWhile_run ht hsign,
      dropWhile_run ht hsign, head?_cons, Option.some.injEq, ← String.toList_inj,
      String.toList_ofList]
  constructor
  · rintro ⟨type, htype, h⟩
    obtain ⟨rfl, rfl⟩ := (hfront type htype).mp h
    exact ⟨htype, rfl⟩
  · rintro ⟨htype, rfl⟩
    exact ⟨_, htype, (hfront _ htype).mpr ⟨rfl, rfl⟩⟩

/-- The line begins with a type, as the check of messages sees it. -/
def opensTyped (line : String) : Bool :=
  types.any fun t => startsWith line (t ++ ":") || startsWith line (t ++ "(")

lemma opensTyped_iff {line : String} (hline : line.toList = t ++ c :: r)
    (ht : ∀ x ∈ t, x.isLower = true) (hc : c.isLower = false) :
    opensTyped line = true ↔ .ofList t ∈ types ∧ (c = ':' ∨ c = '(') := by
  simp only [opensTyped, any_eq_true, Bool.or_eq_true, startsWith_iff, String.toList_append, hline,
    and_or_left, exists_or]
  exact or_congr (exists_front_iff ht hc rfl) (exists_front_iff ht hc rfl)

lemma messageIssues_eq {message line : String} (h : (split (trim message) "\n").headD "" = line) :
    messageIssues message = (if opensTyped line then [] else [missingType])
      ++ (if 72 < line.length then
        ["Subject too long: " ++ toString line.length ++ " chars (max 72)"] else [])
      ++ (if endsWith line "." then ["Subject should not end with period"] else [])
      ++ (if types.any (fun t => startsWith (lower line) (t ++ "ed ")) then
          ["Use imperative mood ('add' not 'added')"] else []) := by
  subst h
  rfl

lemma missingType_mem_iff {message line : String}
    (h : (split (trim message) "\n").headD "" = line) :
    missingType ∈ messageIssues message ↔ opensTyped line = false := by
  have hhead : ∀ x : String, ("Missing valid type. Use one of: " ++ x).toList.head? = some 'M' := by
    simp
  have hother : ∀ s : String, s.toList.head? ≠ some 'M' → missingType ≠ s :=
    fun s hs heq => hs (heq ▸ hhead _)
  have hlong := fun s => hother ("Subject too long: " ++ s) (by simp)
  have hperiod := hother "Subject should not end with period" (by simp)
  have hmood := hother "Use imperative mood ('add' not 'added')" (by simp)
  rw [messageIssues_eq h, String.append_assoc]
  generalize missingType = missing at *
  cases opensTyped line
  · simp
  · simp [hlong, hperiod, hmood]

lemma exists_firstLine {message : String} (h : message.toList = t ++ c :: r)
    (ht : ∀ x ∈ t, x.isLower = true) (hc : isBlank c = false) :
    ∃ u, (split (trim message) "\n").headD "" = .ofList (t ++ c :: u) := by
  have hletter : ∀ x ∈ t, isBlank x = false := fun x hx =>
    have hcode := toNat_of_isLower (ht x hx)
    isBlank_eq_false (by omega) (by omega)
  have hfront : ∀ x ∈ t ++ [c], isBlank x = false := by
    simpa [or_imp, forall_and] using ⟨hletter, hc⟩
  have hstart : ∀ x ∈ (t ++ c :: r).head?, isBlank x = false := by
    intro x hx
    cases t with
    | nil => simpa [← Option.mem_some_iff.mp hx] using hc
    | cons y t => exact hletter x (by simp_all)
  have hbreak : '\n' ∉ t ++ [c] := fun hmem => absurd (hfront _ hmem) (by decide)
  obtain ⟨u, us, hpieces⟩ :=
    exists_pieces_append (s := dropEndWhile isBlank r) (notWithin_of_notMem hbreak [] _)
  have htrim : trimWhile isBlank (t ++ c :: r) = t ++ [c] ++ dropEndWhile isBlank r := by
    have hdrop : (t ++ c :: r).dropWhile isBlank = t ++ c :: r :=
      dropWhile_run (u := []) nofun hstart
    rw [trimWhile, hdrop, dropEndWhile_append_cons hc, append_assoc, singleton_append]
  refine ⟨u, ?_⟩
  rw [split_eq, trim, h, htrim, String.toList_ofList, String.toList_ofList, hpieces]
  simp

/-! ### The strict form -/

/-- The strict form as a pattern. -/
def strictPattern : Pattern.Node :=
  Pattern.ofString ("^(" ++ join "|" types ++ ")(\\([a-z0-9-]+\\))?!?: .\x7b1,50\x7d$")

/-- The conventional form with a known type, a scope of small letters, digits and hyphens, and a
description of at most fifty characters. -/
def IsStrictForm (s : Chars) : Prop :=
  ∃ type ∈ types, ∃ scope marked d, Conforms s type.toList scope marked d ∧
    (∀ inside ∈ scope, ∀ c ∈ inside, isScopeChar c = true) ∧ d.length ≤ 50

lemma isWord_of_mem_types :
    ∀ type ∈ types, type.toList ≠ [] ∧ ∀ x ∈ type.toList, isWord x = true := by
  have hall : ∀ type ∈ types, type.toList ≠ [] ∧ type.toList.all isWord = true := by decide
  simpa only [all_eq_true] using hall

lemma isStrictTail_iff : isStrictTail s = true ↔ ∃ scope rest d, scope? s = some (scope, rest) ∧
    (∀ inside ∈ scope, ∀ c ∈ inside, isScopeChar c = true) ∧ description? (mark rest).2 = some d ∧
      d.length ≤ 50 := by
  unfold isStrictTail
  cases hscope : scope? s with
  | none => simp
  | some p =>
    obtain ⟨scope, rest⟩ := p
    cases hd : description? (mark rest).2 with
    | none => simp [hd]
    | some d => cases scope <;> simp [hd]

lemma isStrict_iff : isStrict s = true ↔ IsStrictForm s := by
  rw [isStrict, any_eq_true]
  refine exists_congr fun type => and_congr_right fun htype => ?_
  obtain ⟨hne, hword⟩ := isWord_of_mem_types type htype
  constructor
  · intro h
    cases hrest : dropFront? type.toList s with
    | none => simp [hrest] at h
    | some rest =>
      obtain ⟨scope, tail, d, hscope, hinside, hd, hlength⟩ :=
        isStrictTail_iff.mp (by simpa [hrest] using h)
      obtain ⟨rfl, hclosed, -⟩ := scope?_eq_some_iff.mp hscope
      obtain ⟨hd_ne, hone, last, hlast, htail⟩ := description?_eq_some_iff.mp hd
      refine ⟨scope, (mark tail).1, d, ⟨hne, hword, hclosed, hd_ne, hone, last, hlast, ?_⟩,
        hinside, hlength⟩
      rw [← htail, markText_append_mark]
      exact eq_append_of_dropFront? hrest
  · rintro ⟨scope, marked, d, ⟨-, -, hclosed, hd_ne, hone, last, hlast, rfl⟩, hinside, hlength⟩
    have hd := description?_eq_some_iff.mpr ⟨hd_ne, hone, last, hlast, rfl⟩
    have hmark : mark (markText marked ++ ':' :: ' ' :: (d ++ last)) =
        (marked, ':' :: ' ' :: (d ++ last)) :=
      mark_markText marked (by simp)
    have hscope : scope? (scopeText scope ++ (markText marked ++ ':' :: ' ' :: (d ++ last))) =
        some (scope, markText marked ++ ':' :: ' ' :: (d ++ last)) := by
      refine scope?_eq_some_iff.mpr ⟨rfl, hclosed, fun _ => ?_⟩
      cases marked <;> simp [markText]
    rw [dropFront?_append]
    exact isStrictTail_iff.mpr ⟨scope, _, d, hscope, hinside, by rw [hmark, hd], hlength⟩

/-- The characters of a scope. -/
def scopeSet : CharSet := { items := [.range 97 122, .range 48 57, .range 45 45] }

/-- The characters of a line. -/
def lineSet : CharSet := { negated := true, items := [.range 10 10] }

/-- The pattern of a scope. -/
def scopeNode : Pattern.Node :=
  .seq (.set (charSet '(')) (.seq (.rep 1 none .greedy (.set scopeSet)) (.set (charSet ')')))

lemma strictPattern_eq : strictPattern =
    .seq (.anchor .start) (.seq (.group 1 (choice (types.map fun t => literal t.toList)))
      (.seq (.rep 0 (some 1) .greedy (.group 2 scopeNode))
        (.seq (.rep 0 (some 1) .greedy (.set (charSet '!')))
          (.seq (.set (charSet ':')) (.seq (.set (charSet ' '))
            (.seq (.rep 1 (some 50) .greedy (.set lineSet)) (.anchor .stopOrNewline))))))) := by
  decide +kernel

lemma accepts_scopeSet (c : Char) : scopeSet.accepts c = isScopeChar c := by
  have hhyphen : c = '-' ↔ 45 ≤ c.toNat ∧ c.toNat ≤ 45 := by
    rw [← Char.toNat_inj, show '-'.toNat = 45 from rfl]
    omega
  rw [Bool.eq_iff_iff]
  simp [scopeSet, CharSet.accepts, SetItem.accepts, isScopeChar, Char.le_def,
    UInt32.le_iff_toNat_le, hhyphen, or_assoc]

lemma reads_scope (n : Nat) : (Node.rep 0 (some 1) .greedy (.group n scopeNode)).Reads fun L t =>
    ∃ scope : Option Chars, (∀ inside ∈ scope, inside ≠ [] ∧ ∀ c ∈ inside, isScopeChar c = true) ∧
      ∃ t', t = scopeText scope ++ t' ∧ L t' := by
  refine (reads_optional n (reads_seq (reads_charSet '(') (reads_seq (reads_rep 1 none scopeSet)
    (reads_charSet ')')))).congr fun L t => ?_
  constructor
  · rintro (⟨-, rfl, inside, -, rfl, hinside, hlength, t', rfl, ht'⟩ | ht)
    · have hchars : ∀ c ∈ inside, isScopeChar c = true :=
        fun c hc => accepts_scopeSet c ▸ hinside.all c hc
      exact ⟨some inside, by simpa using ⟨length_pos_iff.mp hlength, hchars⟩,
        t', by simp [scopeText], ht'⟩
    · exact ⟨none, by simp, t, rfl, ht⟩
  · rintro ⟨scope, hscope, t', rfl, ht'⟩
    cases scope with
    | none => exact .inr ht'
    | some inside =>
      obtain ⟨hne, hinside⟩ := hscope inside rfl
      have hruns : scopeSet.Runs none inside :=
        ⟨fun c hc => (accepts_scopeSet c).trans (hinside c hc), by simp⟩
      exact .inl ⟨_, rfl, inside, _, by simp, hruns, length_pos_iff.mpr hne, t', rfl, ht'⟩

lemma reads_mark : (Node.rep 0 (some 1) .greedy (.set (charSet '!'))).Reads fun L t =>
    ∃ marked t', t = markText marked ++ t' ∧ L t' := by
  refine (reads_rep 0 (some 1) (charSet '!')).congr fun L t => ?_
  constructor
  · rintro ⟨u, t', rfl, ⟨hall, hmost⟩, -, ht'⟩
    rcases u with _ | ⟨x, _ | ⟨y, u⟩⟩
    · exact ⟨false, t', rfl, ht'⟩
    · obtain rfl := accepts_charSet_iff.mp (hall x mem_cons_self)
      exact ⟨true, t', rfl, ht'⟩
    · exact absurd (hmost 1 rfl) (by simp)
  · rintro ⟨marked, t', rfl, ht'⟩
    refine ⟨markText marked, t', rfl, ⟨?_, ?_⟩, Nat.zero_le _, ht'⟩
    all_goals cases marked <;> simp [markText, accepts_charSet_iff]

lemma reads_description : (Node.seq (.set (charSet ':')) (.seq (.set (charSet ' '))
    (.seq (.rep 1 (some 50) .greedy (.set lineSet)) (.anchor .stopOrNewline)))).Reads fun L t =>
      ∃ d tail, t = ':' :: ' ' :: (d ++ tail) ∧ d ≠ [] ∧ '\n' ∉ d ∧ d.length ≤ 50 ∧
        (tail = [] ∨ tail = ['\n']) ∧
        L tail := by
  have haccepts : ∀ c, lineSet.accepts c = true ↔ c ≠ '\n' := by
    intro c
    have hnewline : (charSet '\n').accepts c = true ↔ c = '\n' := accepts_charSet_iff
    simpa [CharSet.accepts, lineSet, charSet] using not_congr hnewline
  refine (reads_seq (reads_charSet ':') (reads_seq (reads_charSet ' ')
    (reads_seq (reads_rep 1 (some 50) lineSet) reads_stopOrNewline))).congr fun L t => ?_
  constructor
  · rintro ⟨-, rfl, -, rfl, d, tail, rfl, hd, hlength, htail, hL⟩
    exact ⟨d, tail, rfl, length_pos_iff.mp hlength, fun hmem => (haccepts _).mp (hd.all _ hmem) rfl,
      hd.most 50 rfl, htail, hL⟩
  · rintro ⟨d, tail, rfl, hne, hline, hlength, htail, hL⟩
    have hruns : lineSet.Runs (some 50) d :=
      ⟨fun c hc => (haccepts c).mpr (ne_of_mem_of_not_mem hc hline), by simpa using hlength⟩
    exact ⟨_, rfl, _, rfl, d, tail, rfl, hruns, length_pos_iff.mpr hne, htail, hL⟩

lemma starts_strictPattern_iff (subject : String) :
    strictPattern.starts subject = true ↔ IsStrictForm subject.toList := by
  have htypes : (choice (types.map fun t => literal t.toList)).Reads fun L t =>
      ∃ type ∈ types, ∃ t', t = type.toList ++ t' ∧ L t' :=
    reads_choice (by decide) fun type htype => reads_literal (isWord_of_mem_types type htype).1
  have hread := reads_seq (reads_group 1 htypes)
    (reads_seq (reads_scope 2) (reads_seq reads_mark reads_description))
  rw [strictPattern_eq]
  refine (starts_iff_of_reads hread subject).trans ?_
  constructor
  · rintro ⟨type, htype, _, hs, scope, hscope, _, rfl, marked, _, rfl, d, tail, rfl, hne, hline,
      hlength, htail, -⟩
    obtain ⟨hword_ne, hword⟩ := isWord_of_mem_types type htype
    have hinside : ∀ inside ∈ scope, inside ≠ [] ∧ ')' ∉ inside := fun inside h =>
      ⟨(hscope inside h).1, fun hmem => absurd ((hscope inside h).2 _ hmem) (by decide)⟩
    exact ⟨type, htype, scope, marked, d, ⟨hword_ne, hword, hinside, hne, hline, tail, htail, hs⟩,
      fun inside h => (hscope inside h).2, hlength⟩
  · rintro ⟨type, htype, scope, marked, d, ⟨-, -, hclosed, hne, hline, tail, htail, hs⟩,
      hscope, hlength⟩
    exact ⟨type, htype, _, hs, scope, fun inside h => ⟨(hclosed inside h).1, hscope inside h⟩, _,
      rfl, marked, _, rfl, d, tail, rfl, hne, hline, hlength, htail, trivial⟩

/-! ### The verdict on a subject -/

/-- A subject without the strict form that no other rule objects to. -/
structure Overlooked (subject : String) : Prop where
  formless : ¬ IsStrictForm subject.toList
  typed : ∃ type ∈ types, type.toList <+: subject.toList
  short : subject.length ≤ 72
  noPeriod : subject.toList.getLast? ≠ some '.'
  small : lower subject = subject

/-- A text cannot begin with a type both in small and in capital letters. -/
lemma not_front_upper {type other : String} (htype : type ∈ types) (hother : other ∈ types)
    (h : type.toList <+: s) :
    ¬ (upper other).toList <+: s := by
  have hcapital : ∀ other ∈ types, (upper other).toList.head?.any (fun x => !x.isLower) = true := by
    decide
  intro h'
  obtain ⟨hne, hsmall⟩ := isLower_of_mem_types type htype
  obtain ⟨y, ys, hys⟩ := exists_cons_of_ne_nil (by simpa using hne : type.toList ≠ [])
  have hlarge := hcapital other hother
  obtain ⟨r, rfl⟩ := h
  rw [hys, cons_append] at h'
  cases hother : (upper other).toList with
  | nil =>
    rw [hother] at hlarge
    cases hlarge
  | cons x xs =>
    rw [hother] at hlarge h'
    obtain rfl : x = y := (cons_prefix_cons.mp h').1
    simp [hsmall x (hys ▸ mem_cons_self)] at hlarge

lemma formatIssues_eq_nil_iff (subject : String) :
    formatIssues subject = [] ↔ IsStrictForm subject.toList ∨ Overlooked subject := by
  have hperiod : endsWith subject "." = true ↔ subject.toList.getLast? = some '.' := by
    rw [endsWith_iff, getLast?_eq_some_iff]
    exact exists_congr fun _ => eq_comm
  have htyped : types.any (startsWith subject) = true ↔
      ∃ type ∈ types, type.toList <+: subject.toList := by
    simp [startsWith_iff]
  by_cases hform : IsStrictForm subject.toList
  · simp [formatIssues, isStrict_iff.mpr hform, hform]
  have hstrict : ¬ isStrict subject.toList = true := fun h => hform (isStrict_iff.mp h)
  have hrules : formatIssues subject = [] ↔ types.any (startsWith subject) = true ∧
      subject.length ≤ 72 ∧
      ¬ endsWith subject "." = true ∧
      (subject = lower subject ∨ types.any (fun t => startsWith subject (upper t)) = true) := by
    simp only [formatIssues, if_neg hstrict, append_eq_nil_iff, ite_eq_left_iff,
      ite_eq_right_iff, cons_ne_nil]
    simp [and_assoc, imp_iff_not_or]
  rw [hrules, htyped, hperiod]
  constructor
  · rintro ⟨⟨type, htype, hfront⟩, hshort, hend, hsmall⟩
    refine .inr ⟨hform, ⟨type, htype, hfront⟩, hshort, hend, (hsmall.resolve_right ?_).symm⟩
    rw [any_eq_true]
    rintro ⟨other, hother, h⟩
    exact not_front_upper htype hother hfront (startsWith_iff.mp h)
  · rintro (h | h)
    · exact absurd h hform
    · exact ⟨h.typed, h.short, h.noPeriod, .inl h.small.symm⟩

/-- The verdict on a subject agrees with the pattern unless the subject is overlooked. -/
theorem compliance_is_pattern_iff (subject : String) :
    ((formatIssues subject).isEmpty = strictPattern.starts subject) ↔ ¬ Overlooked subject := by
  rw [Bool.eq_iff_iff, List.isEmpty_iff, formatIssues_eq_nil_iff, starts_strictPattern_iff]
  constructor
  · intro h hover
    exact hover.formless (h.mp (.inr hover))
  · intro h
    simp [h]

/-- A type without a colon has no issue, though it is not of the strict form. -/
theorem feat_without_colon_compliant :
    ¬ Overlooked "feat: add x" ∧ Overlooked "feat add x" ∧
      ((formatIssues "feat: add x").isEmpty = strictPattern.starts "feat: add x") ∧
      ¬ ((formatIssues "feat add x").isEmpty = strictPattern.starts "feat add x") := by
  have hform : IsStrictForm "feat: add x".toList := isStrict_iff.mp (by decide)
  have hover : Overlooked "feat add x" :=
    { formless := fun h => absurd (isStrict_iff.mpr h) (by decide)
      typed := ⟨"feat", by decide, by decide⟩
      short := by decide
      noPeriod := by decide
      small := by decide }
  have hnot : ¬ Overlooked "feat: add x" := fun h => h.formless hform
  exact ⟨hnot, hover, (compliance_is_pattern_iff _).mpr hnot, fun h =>
    (compliance_is_pattern_iff _).mp h hover⟩

/-! ### Subjects of the strict form -/

lemma exists_of_isStrict (h : isStrict s = true) :
    ∃ type ∈ types, ∃ c r, s = type.toList ++ c :: r ∧ (c = '(' ∨ c = '!' ∨ c = ':') := by
  obtain ⟨type, htype, scope, marked, d, ⟨-, -, -, -, -, tail, -, rfl⟩, -⟩ := isStrict_iff.mp h
  cases scope with
  | some inside => exact ⟨type, htype, '(', _, rfl, by simp⟩
  | none =>
    cases marked with
    | true => exact ⟨type, htype, '!', _, rfl, by simp⟩
    | false => exact ⟨type, htype, ':', _, rfl, by simp⟩

lemma lowerFrom_types (htype : ∀ x ∈ t, x.isLower = true) (hc : c = '(' ∨ c = '!' ∨ c = ':')
    (before : Chars) :
    ∃ r', lowerFrom before (t ++ c :: r) = t ++ c :: r' := by
  induction t generalizing before with
  | nil =>
    rcases hc with rfl | rfl | rfl
    all_goals exact ⟨_, rfl⟩
  | cons x t ih =>
    obtain ⟨hx, ht⟩ := forall_mem_cons.mp htype
    obtain ⟨r', hr'⟩ := ih ht (x :: before)
    have hcode := toNat_of_isLower hx
    have hlow : lowerOne x = x := by
      rw [lowerOne, if_pos (by omega), if_neg]
      simp only [Bool.and_eq_true, decide_eq_true_eq, Char.le_def, UInt32.le_iff_toNat_le, not_and]
      rintro -
      show ¬ x.toNat ≤ 90
      omega
    refine ⟨r', ?_⟩
    rw [cons_append, lowerFrom, if_pos (by omega), hlow, hr']
    rfl

/-- A subject of the strict form that is neither too long nor ends in a period or a blank has
nothing wrong, unless an exclamation mark stands right behind its type. -/
theorem strict_subject_issues {subject : String} (hline : '\n' ∉ subject.toList)
    (hlength : subject.length ≤ 72) (hperiod : endsWith subject "." = false)
    (hblank : ∀ x ∈ subject.toList.getLast?, isBlank x = false)
    (hstrict : isStrict subject.toList = true) :
    messageIssues subject = if types.any (fun t => startsWith subject (t ++ "!")) then
      [missingType] else [] := by
  obtain ⟨type, htype, c, r, hparts, hc⟩ := exists_of_isStrict hstrict
  obtain ⟨hne, hlower⟩ := isLower_of_mem_types type htype
  have hsign : c.isLower = false := by
    rcases hc with rfl | rfl | rfl
    all_goals rfl
  have htrim : trim subject = subject := by
    obtain ⟨y, ys, hys⟩ := List.exists_cons_of_ne_nil (by simpa using hne : type.toList ≠ [])
    have hcode := toNat_of_isLower (hlower y (hys ▸ List.mem_cons_self))
    have hhead : ∀ x ∈ subject.toList.head?, isBlank x = false := by
      rw [hparts, hys]
      simpa using isBlank_eq_false (by omega) (by omega)
    rw [trim, trimWhile_eq_self hhead hblank, String.ofList_toList]
  have hfirst : (split (trim subject) "\n").headD "" = subject := by
    have hsplit : split (join "\n" [subject]) "\n" = [subject] :=
      split_join_lines (by simp) (by simpa using hline)
    rw [htrim, show split subject "\n" = [subject] from hsplit]
    rfl
  have hmood : types.any (fun t => startsWith (lower subject) (t ++ "ed ")) = false := by
    -- the word at the front of the lowered subject is its type, and no type is another one with an
    -- ending
    have hother : ∀ a ∈ types, ∀ b ∈ types, a.toList ≠ (b ++ "ed").toList := by decide
    obtain ⟨r', hr'⟩ := lowerFrom_types (r := r) hlower hc []
    rw [← Bool.not_eq_true, List.any_eq_true]
    rintro ⟨other, hmem, hfront⟩
    have hletters : ∀ x ∈ (other ++ "ed").toList, x.isLower = true := by
      simpa [or_imp, forall_and] using (isLower_of_mem_types other hmem).2
    have hshape : (other ++ "ed ").toList = (other ++ "ed").toList ++ [' '] := by simp
    rw [startsWith_iff, hshape, front_concat_iff hletters rfl, lower,
      String.toList_ofList, hparts, hr', takeWhile_run hlower (by simpa using hsign)] at hfront
    exact hother type htype other hmem hfront.1
  have hmarked : types.any (fun t => startsWith subject (t ++ "!")) = true ↔ c = '!' := by
    simp only [List.any_eq_true, startsWith_iff, String.toList_append, hparts]
    exact (exists_front_iff (d := '!') hlower hsign rfl).trans (by simp [htype])
  have htyped := opensTyped_iff hparts hlower hsign
  rw [messageIssues_eq hfirst, if_neg (Nat.not_lt.mpr hlength), hperiod, hmood]
  rcases hc with rfl | rfl | rfl
  all_goals simp [hmarked, htyped, htype]

/-- A subject with an exclamation mark is of the strict form, but its type is said to be missing. -/
theorem strict_subject_issues_marked :
    '\n' ∉ "feat!: drop x".toList ∧ isStrict "feat!: drop x".toList = true ∧
      messageIssues "feat!: drop x" = [missingType] :=
  ⟨by decide, by decide, strict_subject_issues (by decide) (by decide) (by decide)
    (fun _ h => Option.some.inj h ▸ (by decide : isBlank 'x' = false)) (by decide)⟩

/-! ### Messages for groups of files -/

namespace Grouping

open Color

/-- A path fits one of the patterns. -/
def fits (patterns : List String) (path : String) : Bool :=
  patterns.any fun p => (Pattern.ofString p { ignoreCase := true }).occurs path

/-- The path fits a pattern of configuration, and none of another type. -/
def IsConfig (path : String) : Prop :=
  ∀ kind ∈ typePatterns, fits kind.2 path = (kind.1 == "config")

variable {cs : List Change} {g : Group}

lemma typeOfPath?_eq_config_iff (path : String) :
    typeOfPath? path = some "config" ↔ IsConfig path := by
  have heq : typeOfPath? path = (typePatterns.find? fun kind => fits kind.2 path).map Prod.fst :=
    rfl
  simp only [heq, IsConfig, typePatterns, find?_cons, find?_nil, forall_mem_cons]
  split
  · simp_all
  · split
    · simp_all
    · split <;> simp_all

lemma type_cases (c : Change) :
    (c.type ∈ types ∧ ¬ IsConfig c.path) ∨ (c.type = "config" ∧ IsConfig c.path) := by
  have hsize : typeOfSize c.added c.removed ∈ types := by
    rw [typeOfSize]
    split_ifs
    all_goals decide
  have hkinds : ∀ kind ∈ typePatterns, kind.1 ∈ types ∨ kind.1 = "config" := by decide
  rw [Change.type, typeOf, ← typeOfPath?_eq_config_iff]
  cases hpath : typeOfPath? c.path with
  | none => exact Or.inl ⟨hsize, (Option.some_ne_none _).symm⟩
  | some type =>
    obtain ⟨kind, hkind, rfl⟩ := Option.map_eq_some_iff.mp hpath
    have hconfig : "config" ∉ types := by decide
    rw [Option.getD_some, Option.some.injEq]
    rcases hkinds kind (mem_of_find?_eq_some hkind) with h | h
    · exact Or.inl ⟨h, fun heq => hconfig (heq ▸ h)⟩
    · exact Or.inr ⟨h, h⟩

lemma exists_subjectFor (hg : ∃ c, c ∈ g.changes) :
    ∃ subject, subjectFor g.type g.scope g.size (g.changes.map Change.path) = .ok subject := by
  obtain ⟨c, hc⟩ := hg
  obtain ⟨d, ds, hds⟩ := exists_cons_of_ne_nil (ne_nil_of_mem hc)
  unfold subjectFor
  simp only [hds, map_cons, head?_cons, bind, Except.bind, pure, Except.pure]
  split
  all_goals first | exact ⟨_, rfl⟩ | (split_ifs <;> exact ⟨_, rfl⟩)

/-- The message that is suggested for a group. -/
def Group.message (g : Group) (subject : String) : String :=
  g.type ++ "(" ++ g.scope ++ "): " ++ subject

/-- For each group a message is suggested; its type is missing in the eyes of the check just if the
files of the group are configuration. -/
theorem suggestion_lacks_type_iff (hg : g ∈ groups cs) :
    ∃ subject,
      (∀ index, ∃ files, g.display index =
      .ok (files ++ paint yellow ("\n  Suggested: " ++ g.message subject))) ∧
      (missingType ∈ messageIssues (g.message subject) ↔ ∃ c ∈ g.changes, IsConfig c.path) := by
  obtain ⟨hfull, htype⟩ := exists_of_mem_groups hg
  obtain ⟨subject, hsubject⟩ := exists_subjectFor hfull
  obtain ⟨c, hc⟩ := hfull
  have hlower : ∀ x ∈ g.type.toList, x.isLower = true := by
    have hconfig : ∀ x ∈ "config".toList, x.isLower = true := forall_mem_of_all (by decide)
    rw [← htype c hc]
    rcases type_cases c with ⟨h, -⟩ | ⟨h, -⟩
    · exact (isLower_of_mem_types _ h).2
    · exact h ▸ hconfig
  have hmessage : (g.message subject).toList = g.type.toList ++
      '(' :: (g.scope ++ "): " ++ subject).toList := by
    simp [Group.message]
  obtain ⟨u, hline⟩ := exists_firstLine hmessage hlower (by decide)
  refine ⟨subject, fun index => ?_, ?_⟩
  · have hsuggested : "\n  Suggested: " ++ g.message subject =
        "\n  Suggested: " ++ g.type ++ "(" ++ g.scope ++ "): " ++ subject := by
          simp [Group.message, String.append_assoc]
    rw [Group.display, Grouping.display, hsubject, hsuggested]
    exact ⟨_, rfl⟩
  · rw [missingType_mem_iff hline, ← Bool.not_eq_true,
      opensTyped_iff (String.toList_ofList) hlower rfl, String.ofList_toList]
    have hkind : ∀ d ∈ g.changes, (g.type ∈ types ↔ ¬ IsConfig d.path) := by
      intro d hd
      rw [← htype d hd]
      rcases type_cases d with ⟨h, hpath⟩ | ⟨h, hpath⟩
      · simp [h, hpath]
      · rw [h]
        simpa [hpath] using (by decide : "config" ∉ types)
    constructor
    · intro h
      refine ⟨c, hc, ?_⟩
      by_contra hpath
      exact h ⟨(hkind c hc).mpr hpath, Or.inr rfl⟩
    · rintro ⟨d, hd, hpath⟩ ⟨h, -⟩
      exact (hkind d hd).mp h hpath

def packageChange : Change := ⟨"package.json", 1, 0⟩

/-- The message that is suggested for a changed manifest does not pass the check. -/
theorem package_suggestion_lacks_type :
    ∃ g ∈ groups [packageChange], ∃ subject,
      (∃ files,
        g.display 1 = .ok (files ++ paint yellow ("\n  Suggested: " ++ g.message subject))) ∧
      missingType ∈ messageIssues (g.message subject) := by
  have hconfig : IsConfig packageChange.path := (typeOfPath?_eq_config_iff _).mp (by decide +kernel)
  have hgroup : (⟨packageChange.type, packageChange.scope, [packageChange]⟩ : Group) ∈ groups
      [packageChange] := by
    simp [groups, groupBy]
  obtain ⟨subject, hdisplay, hmissing⟩ := suggestion_lacks_type_iff hgroup
  exact ⟨_, hgroup, subject, hdisplay 1, hmissing.mpr ⟨_, List.mem_singleton_self _, hconfig⟩⟩

end Grouping

end Workbench.Commit
