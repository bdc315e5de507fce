import Workbench.Proofs.Issue.Environment

/-!
# References that are suggested for a commit

Issues are ranked by how much they have to do with the work, and the first five are suggested.  An
issue of the branch is therefore closed exactly if fewer than five rank before it
(`footer_closes_iff`).  What it gets for the branch is a hundred points, which other merits can
outweigh (`branch_issues_first_iff`), and half as many are enough to suggest that an issue be closed
which the footer only refers to (`keywords_agree_iff`).
-/

open List

namespace Workbench.Issue

/-! ### Ranking -/

section Ranking

variable {α : Type} {key : α → Nat} {xs before after : List α} {x : α}

/-- The list from the highest key to the lowest.  Of equal keys, the first comes first. -/
def ranked (key : α → Nat) (xs : List α) : List α := xs.mergeSort fun a b => key b ≤ key a

/-- How many of a list come before `x` when it is ranked, if `x` stands in it after `before`. -/
def countAhead (key : α → Nat) (xs before : List α) (x : α) : Nat :=
  xs.countP (key x < key ·) + before.countP (key · = key x)

lemma perm_ranked (key : α → Nat) (xs : List α) : ranked key xs ~ xs := mergeSort_perm ..

lemma ranks_trans (key : α → Nat) (a b c : α) (hab : decide (key b ≤ key a) = true)
    (hbc : decide (key c ≤ key b) = true) :
    decide (key c ≤ key a) = true := by
  simp only [decide_eq_true_eq] at *
  omega

lemma ranks_total (key : α → Nat) (a b : α) :
    (decide (key b ≤ key a) || decide (key a ≤ key b)) = true := by
  simp only [Bool.or_eq_true, decide_eq_true_eq]
  omega

lemma pairwise_ranked (key : α → Nat) (xs : List α) :
    (ranked key xs).Pairwise fun a b => key b ≤ key a :=
  (pairwise_mergeSort (ranks_trans key) (ranks_total key) xs).imp fun h => of_decide_eq_true h

/-- Ranking keeps the order of those with one key. -/
lemma filter_ranked (key : α → Nat) (xs : List α) (n : Nat) :
    (ranked key xs).filter (key · = n) = xs.filter (key · = n) := by
  have hequal : (xs.filter (key · = n)).Pairwise fun a b => decide (key b ≤ key a) = true := by
    refine pairwise_iff_forall_sublist.mpr fun {a b} hab => ?_
    have hkey : ∀ c ∈ xs.filter (key · = n), key c = n :=
      fun c hc => of_decide_eq_true (mem_filter.mp hc).2
    rw [hkey a (hab.subset (by simp)), hkey b (hab.subset (by simp))]
    simp
  have hsub : xs.filter (key · = n) <+ ranked key xs :=
    sublist_mergeSort (ranks_trans key) (ranks_total key) hequal filter_sublist
  have hfiltered := hsub.filter (key · = n)
  rw [filter_filter] at hfiltered
  simp only [Bool.and_self] at hfiltered
  exact (hfiltered.eq_of_length ((perm_ranked key xs).filter _).length_eq.symm).symm

/-- Of two members of a list, the first stays first when the list is ranked, unless the second has a
higher key. -/
theorem pairwise_ranked_iff {R : α → α → Prop} :
    (ranked key xs).Pairwise R ↔ xs.Pairwise fun a b => if key b ≤ key a then R a b else R b a := by
  induction xs with
  | nil => simp [ranked]
  | cons a xs ih =>
    obtain ⟨high, low, hcons, hranked, hhigh⟩ :=
      mergeSort_cons (ranks_trans key) (ranks_total key) a xs
    have hsorted := pairwise_ranked key (a :: xs)
    have hmem := fun b => (perm_ranked key xs).mem_iff (a := b)
    simp only [ranked] at ih hsorted hmem ⊢
    rw [hcons] at hsorted ⊢
    rw [hranked] at ih hmem
    have habove : ∀ b ∈ high, ¬ key b ≤ key a := fun b hb => by simpa using hhigh b hb
    have hbelow : ∀ b ∈ low, key b ≤ key a :=
      fun b hb => rel_of_pairwise_cons (pairwise_append.mp hsorted).2.1 hb
    have hsides : (∀ b ∈ xs, if key b ≤ key a then R a b else R b a) ↔
        (∀ b ∈ high, R b a) ∧ ∀ b ∈ low, R a b := by
      simp only [← hmem, mem_append, or_imp, forall_and]
      exact and_congr (forall₂_congr fun b hb => by rw [if_neg (habove b hb)])
        (forall₂_congr fun b hb => by rw [if_pos (hbelow b hb)])
    rw [pairwise_cons, ← ih, hsides]
    simp only [pairwise_append, pairwise_cons, mem_cons, forall_eq_or_imp]
    grind

/-- In a ranked list, those before `x` are those of a higher key, and those of its key that stood
before it. -/
lemma length_of_ranked (hdistinct : xs.Nodup) (hxs : xs = before ++ x :: after) {high low : List α}
    (hranked : ranked key xs = high ++ x :: low) : high.length = countAhead key xs before x := by
  have hsorted := pairwise_ranked key xs
  have hnodup : (ranked key xs).Nodup := (perm_ranked key xs).nodup_iff.mpr hdistinct
  have hsame := filter_ranked key xs (key x)
  have hcount := (perm_ranked key xs).countP_eq (key x < key ·)
  rw [hranked] at hsorted hnodup hsame hcount
  obtain ⟨-, htail, hcross⟩ := pairwise_append.mp hsorted
  have habove : ∀ a ∈ high, key x ≤ key a := fun a ha => hcross a ha x (by simp)
  have hbelow : low.countP (key x < key ·) = 0 :=
    countP_eq_zero.mpr fun b hb => by simpa using rel_of_pairwise_cons htail hb
  rw [countP_append, countP_cons_of_neg (by simp), hbelow, Nat.add_zero] at hcount
  -- Those of the key of `x` stand in the same order on both sides, and `x` among them once.
  have hfront : high.filter (key · = key x) = before.filter (key · = key x) := by
    rw [hxs, filter_append, filter_append, filter_cons_of_pos (by simp),
      filter_cons_of_pos (by simp)] at hsame
    refine ((append_cons_inj_of_notMem ?_ ?_).mp hsame).1
    · exact fun h => (nodup_append.mp hnodup).2.2 x (mem_of_mem_filter h) x (by simp) rfl
    · exact fun h => (nodup_cons.mp (nodup_append.mp hnodup).2.1).1 (mem_of_mem_filter h)
  have hrest : high.countP (fun a => ¬ decide (key x < key a) = true) =
      high.countP (key · = key x) := by
    refine countP_congr fun a ha => ?_
    have hle := habove a ha
    simp only [decide_eq_true_eq]
    omega
  rw [length_eq_countP_add_countP (key x < key ·), hrest, hcount, countAhead,
    countP_eq_length_filter (l := before), ← hfront, countP_eq_length_filter (l := high)]

/-- An element is among the first of a ranked list if few enough come before it. -/
theorem mem_take_ranked_iff (hdistinct : xs.Nodup) (hxs : xs = before ++ x :: after) (k : Nat) :
    x ∈ (ranked key xs).take k ↔ countAhead key xs before x < k := by
  have hx : x ∈ ranked key xs := (perm_ranked key xs).mem_iff.mpr (by simp [hxs])
  obtain ⟨high, low, hranked⟩ := append_of_mem hx
  have hnodup : (ranked key xs).Nodup := (perm_ranked key xs).nodup_iff.mpr hdistinct
  rw [← length_of_ranked hdistinct hxs hranked, hranked, List.take_append]
  rw [hranked] at hnodup
  have hhigh : x ∉ high.take k :=
    fun h => (nodup_append.mp hnodup).2.2 x (mem_of_mem_take h) x (by simp) rfl
  rw [mem_append, or_iff_right hhigh]
  cases hk : k - high.length with
  | zero =>
    simp only [take_zero, not_mem_nil, false_iff]
    omega
  | succ m =>
    rw [take_succ_cons, mem_cons]
    simp only [true_or, true_iff]
    omega

lemma countAhead_filter {p : α → Bool} (hp : ∀ a, key x ≤ key a → p a = true) (xs before : List α) :
    countAhead key (xs.filter p) (before.filter p) x = countAhead key xs before x := by
  rw [countAhead, countAhead, countP_filter, countP_filter]
  congr 1
  · refine countP_congr fun a _ => ?_
    simpa using fun h : key x < key a => hp a h.le
  · refine countP_congr fun a _ => ?_
    simpa using fun h : key a = key x => hp a h.ge

end Ranking

section Suggesting

open Value Text

/-! ### Scores -/

lemma anyM_strings (p : String → Bool) (ss : List String) :
    Value.anyM (fun l => do return p (← l.textFor "lower")) (ss.map str) = .ok (ss.any p) := by
  induction ss with
  | nil => rfl
  | cons s ss ih =>
    rw [map_cons, Value.anyM, any_cons]
    cases hp : p s with
    | true => simp [textFor, bind, Except.bind, hp, pure, Except.pure]
    | false => simpa [textFor, bind, Except.bind, hp, pure, Except.pure] using ih

namespace Work

/-- The number is among those selected for the branch. -/
def selects (k : Work) (n : Int) : Bool := (k.selected.has n).toOption.getD false

/-- The issue is one of the branch. -/
def closes (k : Work) (n : Int) : Bool := k.selects n || k.isBranchIssue n

/-- The issue has the label of the scope. -/
def inScope (k : Work) (i : Listed) : Bool :=
  k.label.truthy && (i.labels.map str).any (·.same k.label)

/-- The words of the files that an issue mentions. -/
def mentions (k : Work) (i : Listed) : List String :=
  (k.files.flatMap fileWords).filter fun word =>
    2 < word.length && Text.contains
      (lower (i.title ++ " " ++ Text.take (i.body.getD "") 500)) (lower word)

/-- How often a file and a label have a theme in common. -/
def themes (k : Work) (i : Listed) : Nat :=
  (k.files.map fun file => (["test", "auth", "api"].filter fun theme =>
    Text.contains file theme && i.labels.any fun l =>
      Text.contains (lower l) theme).length).foldr (· + ·) 0

/-- The score of an issue. -/
def points (k : Work) (i : Listed) : Nat :=
  (if k.closes i.number then 100 else 0) + (if k.inScope i then 50 else 0) +
    10 * (k.mentions i).length + 5 * k.themes i

/-- Why an issue is related to the work. -/
def reasons (k : Work) (i : Listed) : List String :=
  (if k.selects i.number then ["branch selected issue"]
    else if k.isBranchIssue i.number then ["branch name match"] else []) ++
  (if k.inScope i then [s!"scope match: {k.label.display}"] else []) ++
  (Text.dedup (k.mentions i)).map ("file keyword: " ++ ·)

/-- The relation of an issue to the work. -/
def relationTo (k : Work) (i : Listed) : Related := ⟨i.record, k.points i, k.reasons i⟩

/-- What is selected for the branch can be compared with numbers. -/
def Comparable (k : Work) : Prop := ∀ n : Int, ∃ b, k.selected.has n = .ok b

variable {k : Work}

lemma Comparable.has (h : k.Comparable) (n : Int) : k.selected.has n = .ok (k.selects n) := by
  obtain ⟨b, hb⟩ := h n
  rw [selects, hb]
  rfl

lemma Comparable.owns (h : k.Comparable) (n : Int) : k.owns n = .ok (k.closes n) := by
  rw [Work.owns, h.has, closes]
  cases k.selects n <;> rfl

lemma Comparable.branchPoints (h : k.Comparable) (i : Listed) : branchPoints k i.record =
    .ok (if k.closes i.number then 100 else 0, if k.selects i.number then ["branch selected issue"]
      else if k.isBranchIssue i.number then ["branch name match"] else []) := by
  rw [Issue.branchPoints, field_record]
  simp only [bind, Except.bind, h.has, closes]
  by_cases hselects : k.selects i.number = true
    <;> by_cases hbranch : k.isBranchIssue i.number = true <;>
    simp [hselects, hbranch, pure, Except.pure]

lemma scopePoints_record (k : Work) (i : Listed) : scopePoints k i.record = .ok
    (if k.inScope i then 50 else 0,
      if k.inScope i then [s!"scope match: {k.label.display}"] else []) := by
  rw [scopePoints, fieldOr_of_field (labels_record i), inScope]
  cases k.label.truthy with
  | false => rfl
  | true =>
    simp only [bind, Except.bind, strings, has, Bool.true_and]
    cases (i.labels.map str).any (·.same k.label) <;> rfl

lemma mentionedWords_record (k : Work) (i : Listed) :
    mentionedWords k i.record = .ok (k.mentions i) := by
  rw [mentionedWords, title_record, fieldOr_of_field (preview_record i)]
  rfl

lemma filterM_themes (file : String) (ss : List String) (ts : List String) :
    (ts.filterM fun theme => do
      if !Text.contains file theme then return false
      Value.anyM (fun l => do return Text.contains (lower (← l.textFor "lower")) theme)
        (← (strings ss).parts) :
      Result (List String)) =
      .ok (ts.filter fun theme =>
        Text.contains file theme && ss.any fun l => Text.contains (lower l) theme) := by
  have hstep : ∀ theme, (do
      if !Text.contains file theme then return false
      Value.anyM (fun l => do return Text.contains (lower (← l.textFor "lower")) theme)
        (← (strings ss).parts) :
      Result Bool) = .ok (Text.contains file theme && ss.any fun l =>
        Text.contains (lower l) theme) := by
    intro theme
    cases Text.contains file theme with
    | false => rfl
    | true => exact anyM_strings (fun l => Text.contains (lower l) theme) ss
  refine filterM_eq_ok_iff.mpr ⟨fun theme _ => ⟨_, hstep theme⟩, ?_⟩
  simp only [hstep]
  rfl

lemma themePoints_record (k : Work) (i : Listed) :
    themePoints k i.record = .ok (5 * k.themes i) := by
  have hthemes := fun file => filterM_themes file i.labels ["test", "auth", "api"]
  rw [themePoints, fieldOr_of_field (labels_record i)]
  simp only [bind, Except.bind] at hthemes ⊢
  simp only [hthemes, mapM_pure]
  rfl

/-- How an issue is related to comparable work, by the parts of its score. -/
theorem Comparable.relation (h : k.Comparable) (i : Listed) :
    relation k i.record = .ok (k.relationTo i) := by
  rw [Issue.relation, h.branchPoints, scopePoints_record, mentionedWords_record, themePoints_record]
  simp only [bind, Except.bind]
  rfl

/-- The issues that have to do with the work, the most related first. -/
def ranking (k : Work) (issues : List Listed) : List Listed :=
  ranked k.points (issues.filter (0 < k.points ·))

/-- The issues related to comparable work, by rank. -/
theorem Comparable.relatedTo (h : k.Comparable) (issues : List Listed) :
    relatedTo k (issues.map Listed.record) = .ok ((k.ranking issues).map k.relationTo) := by
  have hscored : (issues.map Listed.record).mapM (Issue.relation k) =
      .ok (issues.map k.relationTo) :=
    mapM_eq_ok_iff.mpr (forall₂_map_left_iff.mpr (forall₂_map_right_iff.mpr
      (forall₂_same.mpr fun i _ => h.relation i)))
  rw [Issue.relatedTo, hscored]
  simp only [bind, Except.bind, pure, Except.pure]
  rw [filter_map]
  exact congrArg Except.ok (map_mergeSort (r := fun a b => decide (k.points b ≤ k.points a))
    (f := k.relationTo)
    fun a _ b _ => rfl).symm

/-- The lines that suggest an issue, which is numbered from one. -/
def suggestion (k : Work) (n : Nat) (i : Listed) : List String :=
  let (word, confidence) := keyword (k.closes i.number) (k.points i)
  [s!"{n + 1}. [{confidence}] {word} #{i.number}", "   Title: " ++ i.title,
   "   Match: " ++ Text.join ", " (k.reasons i), ""]

/-- The lines that close issues of the branch, and at most two that refer to others. -/
def footerLines (k : Work) (issues : List Listed) : List String :=
  (issues.filter (k.closes ·.number)).map (fun i => s!"Closes #{i.number}") ++
    ((issues.filter fun i => !k.closes i.number && 20 ≤ k.points i).map fun i =>
      s!"Refs #{i.number}").take 2

/-- The issues that are suggested. -/
def shown (k : Work) (issues : List Listed) : List Listed := (k.ranking issues).take 5

/-- The lines that are printed for the issues that are kept. -/
def report (k : Work) (issues : List Listed) : List String :=
  if (k.shown issues).isEmpty then ["No related issues found."]
  else ["Suggested issue references for your commit:", ""] ++
    (k.shown issues).zipIdx.flatMap (fun (i, n) => k.suggestion n i) ++
    ["Suggested commit footer:"] ++ k.footerLines (k.shown issues)

/-- What is known of an issue when the footer is made. -/
def judged (k : Work) (i : Listed) : Related × Value × Bool :=
  (k.relationTo i, i.number, k.closes i.number)

lemma filterMap_ite {α β : Type} (p : α → Bool) (f : α → β) (xs : List α) :
    xs.filterMap (fun x => if p x then some (f x) else none) = (xs.filter p).map f := by
  induction xs with
  | nil => rfl
  | cons x xs ih => cases hx : p x <;> simp [hx, ih]

lemma footer_judged (k : Work) (issues : List Listed) :
    footer (issues.map k.judged) = k.footerLines issues := by
  rw [footer, footerLines, filterMap_map, filterMap_map]
  exact congrArg₂ (· ++ ·) (filterMap_ite _ _ issues)
    (congrArg (List.take 2) (filterMap_ite _ _ issues))

end Work

/-! ### What is suggested -/

open Tool Workspace

/-- What is found of the work: what is saved for the branch, the files that are staged, and twice
the number in the name of the branch. -/
structure Finds (w : World) (k : Work) : Prop where
  saved : ∃ v, savedEnvironment.exec w = (.ok v, w) ∧ selectedNumbers v = .ok k.selected ∧
    labelOf v = .ok k.label ∧
    (v.truthy = true → ∃ x, v.pathOr ["preferences", "defaultProject"] .null = .ok x)
  called : ∃ w₁ w₂ w₃, stagedFiles.exec w = (.ok k.files, w₁) ∧
    branchIssue.exec w₁ = (.ok k.branchIssue, w₂) ∧ branchIssue.exec w₂ = (.ok k.branchIssue, w₃)

variable {w w' : World} {issues : List Listed} {k : Work}

/-- One round of the suggestions: an issue is suggested and judged. -/
def judge (k : Work) :
    Related × Nat → Array (Related × Value × Bool) →
      Tool (ForInStep (Array (Related × Value × Bool)))
  | (r, i), judged => do
    let n ← r.issue.field "number"
    let owned ← k.owns n
    let (word, confidence) := keyword owned r.score
    say s!"{i + 1}. [{confidence}] {word} #{n.display}"
    say ("   Title: " ++ (← r.issue.field "title").display)
    sayAll ["   Match: " ++ Text.join ", " r.reasons, ""]
    return .yield (judged.push (r, n, owned))

lemma exec_judge (hk : k.Comparable) (i : Listed) (n : Nat)
    (judged : Array (Related × Value × Bool)) (w : World) :
    (judge k (k.relationTo i, n) judged).exec w =
      (.ok (.yield (judged.push (k.judged i))), prints w (k.suggestion n i)) := by
  have hnumber : (k.relationTo i).issue.field "number" = .ok i.number := field_record i
  have htitle : (k.relationTo i).issue.field "title" = .ok i.title := title_record i
  rw [judge, exec_bind_ok (exec_lift_ok hnumber w),
    exec_bind_ok (exec_lift_ok (hk.owns i.number) w), Work.suggestion]
  rcases hkeyword : keyword (k.closes i.number) (k.points i) with ⟨word, confidence⟩
  have hword : keyword (k.closes i.number) (k.relationTo i).score = (word, confidence) := hkeyword
  rw [hword]
  dsimp only
  rw [exec_bind_ok (exec_say_prints _ _), exec_bind_ok (exec_lift_ok htitle _),
    exec_bind_ok (exec_say_prints _ _), exec_bind_ok (exec_sayAll _ _), prints_prints,
    prints_prints]
  rfl

lemma exec_judgeAll (hk : k.Comparable) (issues : List Listed) (n : Nat)
    (judged : Array (Related × Value × Bool)) (w : World) :
    (forIn ((issues.map k.relationTo).zipIdx n) judged (judge k)).exec w =
      (.ok (judged ++ (issues.map k.judged).toArray),
        prints w ((issues.zipIdx n).flatMap fun (i, n) => k.suggestion n i)) := by
  induction issues generalizing n judged w with
  | nil => simp [prints_nil]
  | cons i issues ih =>
    rw [map_cons, zipIdx_cons, forIn_cons, exec_bind_ok (exec_judge hk i n judged w)]
    dsimp only
    rw [ih, prints_prints, zipIdx_cons, flatMap_cons]
    simp

/-! ### What is called -/

lemma exists_exec_output (argv : Argv) (w : World) :
    ∃ r, (recover (output? argv) none).exec w = (r, { w with calls := w.calls ++ [argv] }) := by
  obtain ⟨r, hr⟩ := exec_run_calls argv "None" w
  rw [recover, exec_guarded, output?, exec_bind, hr]
  rcases r with e | ended
  · dsimp only
    split_ifs <;> exact ⟨_, rfl⟩
  · exact ⟨_, rfl⟩

lemma exists_calls_of_output {α : Type} {argv : Argv} {f : Option String → Tool α} {r : Result α}
    (hf : ∀ out, Sees (f out)) (h : (recover (output? argv) none >>= f).exec w = (r, w')) :
    ∃ calls, w' = { w with calls } := by
  obtain ⟨found, hfound⟩ := exists_exec_output argv w
  rw [exec_bind, hfound] at h
  rcases found with e | found
  · exact ⟨_, (Prod.mk.inj h).2.symm⟩
  · obtain ⟨x, hx⟩ := hf found { w with calls := w.calls ++ [argv] }
    exact ⟨_, (Prod.mk.inj ((hx _ rfl rfl).symm.trans h)).2.symm⟩

lemma exists_calls_of_stagedFiles {r : Result (List String)} (h : stagedFiles.exec w = (r, w')) :
    ∃ calls, w' = { w with calls } := by
  refine exists_calls_of_output (fun out => ?_) h
  split <;> exact sees_pure _

lemma exists_calls_of_branchIssue {r : Result (Option Int)} (h : branchIssue.exec w = (r, w')) :
    ∃ calls, w' = { w with calls } := by
  refine exists_calls_of_output (fun out => ?_) h
  split
  · exact sees_pure _
  · exact sees_pure _
  · exact sees_lift _

lemma exec_savedEnvironment_calls {v : Value} (h : savedEnvironment.exec w = (.ok v, w))
    (calls : List Argv) :
    savedEnvironment.exec { w with calls } = (.ok v, { w with calls }) := by
  obtain ⟨r, hr⟩ := sees_jsonOrNull environmentFile.toString w
  obtain ⟨rfl, -⟩ := Prod.mk.inj ((hr w rfl rfl).symm.trans h)
  exact hr _ rfl rfl

lemma exec_findRelated (files : List String) (hkeeps : Keeps w issues) (hissues : issues ≠ [])
    (hk : k.Comparable) {w₁ w₂ : World} {v : Value}
    (hfiles : (if files.isEmpty then stagedFiles else pure files).exec w = (.ok k.files, w₁))
    (hbranch : branchIssue.exec w₁ = (.ok k.branchIssue, w₂))
    (hsaved : savedEnvironment.exec w₂ = (.ok v, w₂))
    (hselected : selectedNumbers v = .ok k.selected) (hlabel : labelOf v = .ok k.label)
    (hproject : v.truthy = true → ∃ x, v.pathOr ["preferences", "defaultProject"] .null = .ok x) :
    (findRelated files).exec w = (.ok ((k.ranking issues).map k.relationTo), w₂) := by
  obtain ⟨now, repository, filter, value, hload⟩ := hkeeps.exec_load
  have hrelated : ∀ w, (do
      let members ← (Value.list (issues.map Listed.record)).parts
      relatedTo ⟨k.files, k.selected, k.branchIssue, k.label⟩ members :
        Tool (List Related)).exec w =
      (.ok ((k.ranking issues).map k.relationTo), w) := by
    intro w
    rw [exec_bind_ok (exec_lift (Value.list _).parts w), exec_lift_ok (hk.relatedTo issues)]
  have hrecords : (!(Value.list (issues.map Listed.record)).truthy) = false := by
    simpa [truthy] using hissues
  rw [findRelated, exec_bind_ok hload, truthy_cache, if_neg (by decide),
    exec_bind_ok (exec_lift_ok (issuesOf_cache _ _ _ _ _) w), hrecords, if_neg Bool.false_ne_true]
  dsimp only
  split_ifs at hfiles ⊢
  all_goals
    rw [exec_bind_ok hfiles, exec_bind_ok hbranch, exec_bind_ok hsaved,
      exec_bind_ok (exec_lift_ok hselected w₂), exec_bind_ok (exec_lift_ok hlabel w₂)]
    split_ifs with htruthy
    · obtain ⟨x, hx⟩ := hproject htruthy
      rw [exec_bind_ok (exec_lift_ok hx w₂)]
      exact hrelated w₂
    · exact hrelated w₂

lemma exec_findRelated_nil (files : List String) (hkeeps : Keeps w []) :
    (findRelated files).exec w = (.ok [], w) := by
  obtain ⟨now, repository, filter, value, hload⟩ := hkeeps.exec_load
  rw [findRelated, exec_bind_ok hload, truthy_cache, if_neg (by decide),
    exec_bind_ok (exec_lift_ok (issuesOf_cache _ _ _ _ _) w)]
  rfl

lemma report_of_ranking_nil (h : k.ranking issues = []) :
    k.report issues = ["No related issues found."] := by
  rw [Work.report, Work.shown, h]
  rfl

lemma exec_suggest_unrelated (h : (findRelated []).exec w = (.ok [], w')) :
    suggest.exec w = (.ok (), prints w' ["No related issues found."]) := by
  rw [suggest, exec_bind_ok h, if_pos isEmpty_nil]
  exact exec_bind_ok (exec_say_prints _ _) _

lemma exec_suggest_related (hk : k.Comparable) {w₂ w₃ : World} {v : Value}
    (hranking : k.ranking issues ≠ [])
    (h : (findRelated []).exec w = (.ok ((k.ranking issues).map k.relationTo), w₂))
    (hbranch : branchIssue.exec w₂ = (.ok k.branchIssue, w₃))
    (hsaved : savedEnvironment.exec w₃ = (.ok v, w₃))
    (hselected : selectedNumbers v = .ok k.selected) :
    suggest.exec w = (.ok (), prints w₃ (k.report issues)) := by
  have hrelated : ((k.ranking issues).map k.relationTo).isEmpty = false := by simpa using hranking
  have hshown : (k.shown issues).isEmpty = false := by simpa [Work.shown] using hranking
  rw [suggest, exec_bind_ok h, hrelated, if_neg Bool.false_ne_true, exec_bind_ok hbranch,
    exec_bind_ok hsaved, exec_bind_ok (exec_lift_ok hselected w₃)]
  dsimp only
  rw [exec_bind_ok (exec_say_prints _ _), ← map_take]
  refine (exec_bind_ok (exec_judgeAll hk (k.shown issues) 0 #[] _) _).trans ?_
  have hfooter : footer (#[] ++ ((k.shown issues).map k.judged).toArray).toList =
      k.footerLines (k.shown issues) := by
    rw [Array.empty_append, List.toList_toArray, k.footer_judged]
  have hheading : prints w₃ ["Suggested issue references for your commit:\n"] =
      prints w₃ ["Suggested issue references for your commit:", ""] := by
    have hlines : String.join (["Suggested issue references for your commit:\n"].map (· ++ "\n")) =
        String.join (["Suggested issue references for your commit:", ""].map (· ++ "\n")) := by
          decide
    rw [prints, prints, hlines]
  rw [exec_bind_ok (exec_say_prints _ _), exec_sayAll, hfooter, hheading, prints_prints,
    prints_prints, prints_prints, Work.report, hshown, if_neg Bool.false_ne_true]
  simp only [append_assoc]

/-- The command prints the report and changes nothing but the calls. -/
theorem exec_suggest (hkeeps : Keeps w issues) (hk : k.Comparable) (hfinds : Finds w k) :
    ∃ calls, suggest.exec w = (.ok (), prints { w with calls } (k.report issues)) := by
  obtain ⟨v, hsaved, hselected, hlabel, hproject⟩ := hfinds.saved
  obtain ⟨w₁, w₂, w₃, hstaged, hbranch, hagain⟩ := hfinds.called
  obtain ⟨c₁, rfl⟩ := exists_calls_of_stagedFiles hstaged
  obtain ⟨c₂, rfl⟩ := exists_calls_of_branchIssue hbranch
  obtain ⟨c₃, rfl⟩ := exists_calls_of_branchIssue hagain
  have hstill := exec_savedEnvironment_calls hsaved
  by_cases hissues : issues = []
  · subst hissues
    rw [report_of_ranking_nil (by simp [Work.ranking, ranked])]
    exact ⟨w.calls, exec_suggest_unrelated (exec_findRelated_nil [] hkeeps)⟩
  · have hfound :=
      exec_findRelated [] hkeeps hissues hk hstaged hbranch (hstill c₂) hselected hlabel hproject
    by_cases hranking : k.ranking issues = []
    · rw [hranking] at hfound
      rw [report_of_ranking_nil hranking]
      exact ⟨c₂, exec_suggest_unrelated hfound⟩
    · exact ⟨c₃, exec_suggest_related hk hranking hfound hagain (hstill c₃) hselected⟩

/-! ### Closing the issues of a branch -/

lemma Work.closes_iff {n : Int} (h : k.selects n = true ∨ k.branchIssue = some n) :
    k.closes n = true ↔ k.selects n = true ∨ n ≠ 0 := by
  rw [Work.closes, Bool.or_eq_true]
  refine or_congr_right' fun hselects => ?_
  rw [Work.isBranchIssue, h.resolve_left hselects]
  simp [same, sameAtom, whole?]

lemma Work.le_points {i : Listed} (h : k.closes i.number = true) : 100 ≤ k.points i := by
  rw [Work.points, if_pos h]
  omega

lemma number_sign_notMem (n : Int) : '#' ∉ (toString n).toList := by
  have hdigits : '#' ∉ Nat.toDigits 10 n.natAbs :=
    fun h => absurd ((Json.numeral_toDigits _).digits _ h) (by decide)
  rw [Json.toList_int]
  split_ifs
  · simpa using hdigits
  · exact hdigits

/-- A line of the footer tells its keyword and its number. -/
lemma reference_injective (word other : String) {m n : Int} (hword : '#' ∉ word.toList)
    (h : s!"{word} #{m}" = s!"{other} #{n}") : word = other ∧ m = n := by
  have hline : ∀ (word : String) (n : Int),
      (s!"{word} #{n}").toList = (word.toList ++ [' ']) ++ '#' :: (toString n).toList :=
        fun word n => by simp [toString]
  have htext := congrArg String.toList h
  rw [hline, hline, append_cons_inj_of_notMem (by simpa using hword)
    (number_sign_notMem m)] at htext
  obtain ⟨hfront, -, hnumber⟩ := htext
  exact ⟨String.toList_injective (append_cancel_right hfront),
    Json.toString_int_injective (String.toList_injective hnumber)⟩

lemma Work.mem_footerLines_iff {i : Listed} {shown : List Listed}
    (hdistinct : (issues.map Listed.number).Nodup) (hi : i ∈ issues) (hshown : shown ⊆ issues) :
    s!"Closes #{i.number}" ∈ k.footerLines shown ↔ i ∈ shown ∧ k.closes i.number = true := by
  rw [Work.footerLines, mem_append]
  constructor
  · rintro (hclosing | hreferring)
    · obtain ⟨j, hj, hline⟩ := mem_map.mp hclosing
      obtain ⟨hj, hcloses⟩ := mem_filter.mp hj
      obtain ⟨-, hnumber⟩ := reference_injective "Closes" "Closes" (by decide) hline
      obtain rfl := inj_on_of_nodup_map hdistinct (hshown hj) hi hnumber
      exact ⟨hj, hcloses⟩
    · obtain ⟨j, -, hline⟩ := mem_map.mp (mem_of_mem_take hreferring)
      exact absurd (reference_injective "Refs" "Closes" (by decide) hline).1 (by decide)
  · exact fun h => .inl (mem_map_of_mem (mem_filter.mpr h))

lemma Work.mem_shown_iff {i : Listed} {before after : List Listed} (hdistinct : issues.Nodup)
    (hissues : issues = before ++ i :: after) (hi : 0 < k.points i) :
    i ∈ k.shown issues ↔ countAhead k.points issues before i < 5 := by
  have hrelated : issues.filter (0 < k.points ·) =
      before.filter (0 < k.points ·) ++ i :: after.filter (0 < k.points ·) := by
    rw [hissues, filter_append, filter_cons_of_pos (by simpa using hi)]
  rw [Work.shown, Work.ranking, mem_take_ranked_iff (hdistinct.filter _) hrelated,
    countAhead_filter]
  intro j hj
  exact decide_eq_true (hi.trans_le hj)

/-- Where each issue has a number of its own, the references that are suggested are printed, and an
issue that is selected for the branch or named by it is closed in the footer exactly if its number
is selected or is not zero, and fewer than five issues come before it. -/
theorem footer_closes_iff (hkeeps : Keeps w issues) (hdistinct : (issues.map Listed.number).Nodup)
    (hk : k.Comparable) (hfinds : Finds w k) :
    (∃ calls, suggest.exec w = (.ok (), prints { w with calls } (k.report issues))) ∧
    ∀ before i after, issues = before ++ i :: after →
      k.selects i.number = true ∨ k.branchIssue = some i.number →
      (s!"Closes #{i.number}" ∈ k.footerLines (k.shown issues) ↔
        (k.selects i.number = true ∨ i.number ≠ 0) ∧ countAhead k.points issues before i < 5) := by
  refine ⟨exec_suggest hkeeps hk hfinds, fun before i after hissues hnamed => ?_⟩
  have hi : i ∈ issues := by simp [hissues]
  have hsub : k.shown issues ⊆ issues := fun j hj =>
    mem_of_mem_filter ((perm_ranked _ _).mem_iff.mp (mem_of_mem_take hj))
  rw [Work.mem_footerLines_iff hdistinct hi hsub, and_comm, ← Work.closes_iff hnamed]
  refine and_congr_right fun hcloses => Work.mem_shown_iff (hdistinct.of_map _) hissues ?_
  exact (by decide : 0 < 100).trans_le (Work.le_points hcloses)

/-! ### Folders with an environment -/

lemma exists_keeps (h : ¬ Long (issues.map Listed.number)) :
    ∃ s, ∀ t, Keeps (folder (some s) t) issues := by
  have hrecords : ∀ i ∈ issues, Json.Writable (Json.nestingLimit - 2) i.record := fun i hi =>
    writable_record (.int (not_lt.mp fun hlong => h ⟨i.number, mem_map_of_mem hi, hlong⟩))
  have hempty : Json.Writable (Json.nestingLimit - 1) (.str "") := Json.writable_str ""
  obtain ⟨s, -, hreads⟩ :=
    (writable_cache hempty hempty hempty Json.writable_null hrecords).exists_render {}
  rw [mapFloats_cache] at hreads
  exact ⟨s, fun t => ⟨furnished_folder (some s) t, .text s, _, _, _, _, rfl, hreads⟩⟩

/-- An environment that tells one thing of its branch. -/
def branchEnvironment (key : String) (v : Value) : Value := .object [("branch", .object [(key, v)])]

lemma exists_exec_savedEnvironment {v : Value} (h : Json.Writable (Json.nestingLimit - 2) v)
    (key : String) :
    ∃ t, ∀ s, savedEnvironment.exec (folder s t) =
      (.ok (branchEnvironment key (v.mapFloats Json.reread)), folder s t) := by
  have hbranch : Json.Writable (Json.nestingLimit - 1) (.object [(key, v)]) :=
    .object (by simp) (forall_mem_singleton.mpr h)
  have henvironment : Json.Writable Json.nestingLimit (branchEnvironment key v) :=
    .object (by simp) (forall_mem_singleton.mpr hbranch)
  obtain ⟨t, -, hreads⟩ := henvironment.exists_render {}
  exact ⟨t, exec_savedEnvironment_folder hreads⟩

/-! ### Six issues of one branch -/

def oneToSix : List Int := [1, 2, 3, 4, 5, 6]

def untitled (n : Int) : Listed := ⟨n, "", "OPEN", [], [], none, "", "", "", none⟩

def sixSelected : Work := ⟨[], .list (oneToSix.map int), none, .null⟩

/-- Of six selected issues the last has no line of its own. -/
theorem sixth_issue_not_closed : ∃ w, Keeps w (oneToSix.map untitled) ∧ Finds w sixSelected ∧
    (∃ calls, suggest.exec w =
      (.ok (), prints { w with calls } (sixSelected.report (oneToSix.map untitled)))) ∧
    "Closes #5" ∈ sixSelected.footerLines (sixSelected.shown (oneToSix.map untitled)) ∧
    "Closes #6" ∉ sixSelected.footerLines (sixSelected.shown (oneToSix.map untitled)) := by
  obtain ⟨s, hkeeps⟩ := @exists_keeps (oneToSix.map untitled) (by decide)
  obtain ⟨t, hsaved⟩ :=
    exists_exec_savedEnvironment (@writable_numbers oneToSix _ (by decide)) "relatedIssues"
  have hfinds : Finds (folder (some s) t) sixSelected :=
    ⟨⟨_, hsaved (some s), rfl, rfl, fun _ => ⟨.null, rfl⟩⟩, _, _, _, rfl, rfl, rfl⟩
  obtain ⟨hprints, hcloses⟩ := footer_closes_iff (hkeeps t) (by decide) (fun n => ⟨_, rfl⟩) hfinds
  have hfifth :=
    hcloses ([1, 2, 3, 4].map untitled) (untitled 5) [untitled 6] rfl (.inl (by decide))
  have hsixth := hcloses ([1, 2, 3, 4, 5].map untitled) (untitled 6) [] rfl (.inl (by decide))
  refine ⟨_, hkeeps t, hfinds, hprints, hfifth.mpr ⟨.inl (by decide), by decide⟩, fun h => ?_⟩
  exact absurd (hsixth.mp h).2 (by decide)

/-! ### The keyword of an issue -/

/-- Where the footer names the issue, it gives it the keyword that it is suggested with. -/
def Work.Agrees (k : Work) (issues : List Listed) (i : Listed) : Prop :=
  ∀ word, s!"{word} #{i.number}" ∈ k.footerLines (k.shown issues) →
    word = (keyword (k.closes i.number) (k.points i)).1

lemma fst_keyword (owned : Bool) (score : Nat) :
    (keyword owned score).1 = if owned = true ∨ 50 ≤ score then "Closes" else "Refs" := by
  simp only [keyword, Bool.or_eq_true, decide_eq_true_eq]
  split_ifs <;> rfl

lemma Work.mem_footerLines_cases {word : String} {n : Int} {shown : List Listed}
    (h : s!"{word} #{n}" ∈ k.footerLines shown) :
    (word = "Closes" ∧ k.closes n = true) ∨ (word = "Refs" ∧ k.closes n = false) := by
  rw [Work.footerLines, mem_append] at h
  rcases h with h | h
  · obtain ⟨i, hi, hline⟩ := mem_map.mp h
    obtain ⟨rfl, rfl⟩ := reference_injective "Closes" word (by decide) hline
    exact .inl ⟨rfl, (mem_filter.mp hi).2⟩
  · obtain ⟨i, hi, hline⟩ := mem_map.mp (mem_of_mem_take h)
    obtain ⟨rfl, rfl⟩ := reference_injective "Refs" word (by decide) hline
    have hother := (mem_filter.mp hi).2
    simp only [Bool.and_eq_true, Bool.not_eq_true'] at hother
    exact .inr ⟨rfl, hother.1⟩

/-- The first of those that are shown and do not belong to the branch is referred to in the
footer. -/
lemma Work.exists_referred {i : Listed} (hi : i ∈ k.shown issues)
    (hother : k.closes i.number = false) (hpoints : 20 ≤ k.points i) :
    ∃ j ∈ k.shown issues, k.closes j.number = false ∧ k.points i ≤ k.points j ∧
      s!"Refs #{j.number}" ∈ k.footerLines (k.shown issues) := by
  let others := (k.shown issues).filter fun i => !k.closes i.number && 20 ≤ k.points i
  have hmem : i ∈ others := mem_filter.mpr ⟨hi, by simp [hother, hpoints]⟩
  have hsorted : others.Pairwise fun a b => k.points b ≤ k.points a :=
    (pairwise_ranked k.points _).take.filter _
  obtain ⟨j, rest, hothers⟩ := exists_cons_of_ne_nil (ne_nil_of_mem hmem)
  obtain ⟨hj, hjother⟩ := mem_filter.mp (show j ∈ others by simp [hothers])
  simp only [Bool.and_eq_true, Bool.not_eq_true'] at hjother
  refine ⟨j, hj, hjother.1, ?_, mem_append_right _ ?_⟩
  · rw [hothers] at hmem hsorted
    rcases mem_cons.mp hmem with rfl | hrest
    · exact le_rfl
    · exact rel_of_pairwise_cons hsorted hrest
  · rw [show (k.shown issues).filter _ = _ from hothers]
    exact mem_cons_self

lemma Work.agrees_iff (word : String) {i : Listed}
    (h : s!"{word} #{i.number}" ∈ k.footerLines (k.shown issues)) :
    k.Agrees issues i ↔ k.closes i.number = true ∨ k.points i < 50 := by
  have hword : ∀ word, s!"{word} #{i.number}" ∈ k.footerLines (k.shown issues) →
      (word = (keyword (k.closes i.number) (k.points i)).1 ↔ k.closes i.number = true ∨
        k.points i < 50) := by
    intro word h
    rw [fst_keyword]
    rcases Work.mem_footerLines_cases h with ⟨rfl, hcloses⟩ | ⟨rfl, hcloses⟩
    · simp [hcloses]
    · by_cases hpoints : 50 ≤ k.points i <;> simp [hcloses, hpoints, Nat.lt_of_not_le]
  exact ⟨fun hagrees => (hword word h).mp (hagrees word h), fun hclosed word h =>
    (hword word h).mpr hclosed⟩

/-- The references are printed.  The keyword with which an issue is suggested is the one that the
footer gives it, if the footer names it, exactly if the issue is one of the branch or has less than
fifty points; so all keywords agree exactly if each issue that is shown is one of the branch or has
less than fifty points. -/
theorem keywords_agree_iff (hkeeps : Keeps w issues) (hk : k.Comparable) (hfinds : Finds w k) :
    (∃ calls, suggest.exec w = (.ok (), prints { w with calls } (k.report issues))) ∧
    (∀ i ∈ k.shown issues, ∀ word : String,
      s!"{word} #{i.number}" ∈ k.footerLines (k.shown issues) →
      (k.Agrees issues i ↔ k.closes i.number = true ∨ k.points i < 50)) ∧
    ((∀ i ∈ k.shown issues, k.Agrees issues i) ↔ ∀ i ∈ k.shown issues,
      k.closes i.number = true ∨ k.points i < 50) := by
  refine ⟨exec_suggest hkeeps hk hfinds, fun i _ word h => Work.agrees_iff word h,
    fun hagree i hi => ?_, fun hclosed i hi word h =>
    (Work.agrees_iff word h).mpr (hclosed i hi) word h⟩
  by_contra hnot
  obtain ⟨hcloses, hpoints⟩ : k.closes i.number = false ∧ 50 ≤ k.points i := by simpa using hnot
  obtain ⟨j, hj, hother, hle, h⟩ := Work.exists_referred hi hcloses (by omega)
  rcases (Work.agrees_iff "Refs" h).mp (hagree j hj) with hj | hj
  · exact absurd (hj.symm.trans hother) (by decide)
  · omega

/-- An issue that is in scope and not of the branch. -/
def tokens : Listed := ⟨1, "Tokens", "OPEN", ["scope:auth"], [], none, "", "", "", none⟩

def authWork : Work := ⟨[], .list [], none, "scope:auth"⟩

/-- One report says `Closes` and `Refs` of the same issue. -/
theorem scoped_issue_closed_and_referred : ∃ w, Keeps w [tokens] ∧ Finds w authWork ∧
    (∃ calls, suggest.exec w = (.ok (), prints { w with calls } (authWork.report [tokens]))) ∧
    authWork.report [tokens] =
      ["Suggested issue references for your commit:", "", "1. [HIGH] Closes #1", "   Title: Tokens",
        "   Match: scope match: scope:auth", "", "Suggested commit footer:", "Refs #1"] ∧
    ¬ authWork.Agrees [tokens] tokens := by
  obtain ⟨s, hkeeps⟩ := @exists_keeps [tokens] (by decide)
  obtain ⟨t, hsaved⟩ := exists_exec_savedEnvironment (Json.writable_str "scope:auth") "scopeLabel"
  have hfinds : Finds (folder (some s) t) authWork :=
    ⟨⟨_, hsaved (some s), rfl, rfl, fun _ => ⟨.null, rfl⟩⟩, _, _, _, rfl, rfl, rfl⟩
  have hpoints : authWork.points tokens = 50 := by decide
  have hshown : authWork.shown [tokens] = [tokens] := by
    simp [Work.shown, Work.ranking, ranked, hpoints]
  obtain ⟨hprints, hagrees, -⟩ := keywords_agree_iff (hkeeps t) (fun n => ⟨_, rfl⟩) hfinds
  refine ⟨_, hkeeps t, hfinds, hprints, ?_, fun h => ?_⟩
  · rw [Work.report, hshown]
    decide
  · rw [hshown] at hagrees
    exact absurd ((hagrees tokens (mem_singleton_self _) "Refs" (by decide)).mp h) (by decide)

/-! ### Issues of the branch among the others -/

/-- What is found of the work on files, which are those that are staged if none are given. -/
structure Seeks (w : World) (files : List String) (k : Work) : Prop where
  saved : ∃ v, savedEnvironment.exec w = (.ok v, w) ∧ selectedNumbers v = .ok k.selected ∧
    labelOf v = .ok k.label ∧
    (v.truthy = true → ∃ x, v.pathOr ["preferences", "defaultProject"] .null = .ok x)
  called : ∃ w₁ w₂, (if files.isEmpty then stagedFiles else pure files).exec w = (.ok k.files, w₁) ∧
    branchIssue.exec w₁ = (.ok k.branchIssue, w₂)

lemma exec_findRelated_of_seeks {files : List String} (hkeeps : Keeps w issues) (hk : k.Comparable)
    (hseeks : Seeks w files k) :
    ∃ calls, (findRelated files).exec w =
      (.ok ((k.ranking issues).map k.relationTo), { w with calls }) := by
  obtain ⟨v, hsaved, hselected, hlabel, hproject⟩ := hseeks.saved
  obtain ⟨w₁, w₂, hfiles, hbranch⟩ := hseeks.called
  have hcalls : ∃ calls, w₁ = { w with calls } := by
    split_ifs at hfiles
    · exact exists_calls_of_stagedFiles hfiles
    · exact ⟨w.calls, (Prod.mk.inj hfiles).2.symm⟩
  obtain ⟨c₁, rfl⟩ := hcalls
  obtain ⟨c₂, rfl⟩ := exists_calls_of_branchIssue hbranch
  by_cases hissues : issues = []
  · subst hissues
    exact ⟨w.calls, by simpa [Work.ranking, ranked] using exec_findRelated_nil files hkeeps⟩
  · exact ⟨c₂, exec_findRelated files hkeeps hissues hk hfiles hbranch
      (exec_savedEnvironment_calls hsaved c₂) hselected
      hlabel hproject⟩

namespace Work

/-- The issue is selected for the branch, or the name of the branch has its number. -/
def Branched (k : Work) (i : Listed) : Prop :=
  k.selects i.number = true ∨ k.branchIssue = some i.number

/-- The points for being selected or named by the branch. -/
def bonus (k : Work) (i : Listed) : Nat := if k.closes i.number then 100 else 0

/-- The points of an issue for its scope, its words and its themes. -/
def merits (k : Work) (i : Listed) : Nat :=
  (if k.inScope i then 50 else 0) + 10 * (k.mentions i).length + 5 * k.themes i

lemma points_eq (k : Work) (i : Listed) : k.points i = k.bonus i + k.merits i := by
  rw [points, bonus, merits]
  omega

lemma bonus_of_not_branched {i : Listed} (h : ¬ k.Branched i) : k.bonus i = 0 := by
  refine if_neg fun hcloses => h ?_
  rcases (Bool.or_eq_true _ _).mp hcloses with hselects | hbranch
  · exact .inl hselects
  · rw [isBranchIssue] at hbranch
    split at hbranch
    · rename_i n hn
      have hsame : i.number = n := by
        simpa [same, sameAtom, whole?] using ((Bool.and_eq_true _ _).mp hbranch).2
      exact .inr (hn.trans (congrArg some hsame.symm))
    · cases hbranch

lemma pairwise_ranking_iff (k : Work) (issues : List Listed) :
    (k.ranking issues).Pairwise (fun a b => k.Branched b → k.Branched a) ↔
      ∀ a b, k.Branched a → ¬ k.Branched b → 0 < k.points a → 0 < k.points b →
        ([a, b] <+ issues → k.points b ≤ k.points a) ∧
          ([b, a] <+ issues → k.points b < k.points a) := by
  rw [ranking, pairwise_ranked_iff, pairwise_filter, pairwise_iff_forall_sublist]
  simp only [decide_eq_true_eq]
  constructor
  · intro h a b ha hb hpa hpb
    constructor
    · intro hab
      by_contra hlt
      have hturned := h hab hpa hpb
      rw [if_neg hlt] at hturned
      exact hb (hturned ha)
    · intro hba
      by_contra hle
      have hkept := h hba hpb hpa
      rw [if_pos (Nat.le_of_not_lt hle)] at hkept
      exact hb (hkept ha)
  · intro h a b hab hpa hpb
    split_ifs with hle
    · intro hb
      by_contra ha
      exact absurd ((h b a hb ha hpb hpa).2 hab) (Nat.not_lt.mpr hle)
    · intro ha
      by_contra hb
      exact hle ((h a b ha hb hpa hpb).1 hab)

end Work

/-- The issues that have to do with the files are found.  Those of the branch come first exactly if
none of the others has merits that outweigh the bonus of one of them and its merits, or that balance
them if the other one is kept first. -/
theorem branch_issues_first_iff {files : List String} (hkeeps : Keeps w issues) (hk : k.Comparable)
    (hseeks : Seeks w files k) :
    (∃ calls, (findRelated files).exec w =
      (.ok ((k.ranking issues).map k.relationTo), { w with calls })) ∧
    ((k.ranking issues).Pairwise (fun a b => k.Branched b → k.Branched a) ↔
      ∀ a b, k.Branched a → ¬ k.Branched b → 0 < k.bonus a + k.merits a → 0 < k.merits b →
        ([a, b] <+ issues → k.merits b ≤ k.bonus a + k.merits a) ∧
        ([b, a] <+ issues → k.merits b < k.bonus a + k.merits a)) := by
  refine ⟨exec_findRelated_of_seeks hkeeps hk hseeks, (k.pairwise_ranking_iff issues).trans ?_⟩
  refine forall₄_congr fun a b _ hb => ?_
  have hmerits : k.points b = k.merits b := by
    rw [k.points_eq, Work.bonus_of_not_branched hb, Nat.zero_add]
  rw [hmerits, k.points_eq a]

/-- An issue that is not of the branch, with a word that eleven files have. -/
def login : Listed := ⟨2, "Login", "OPEN", [], [], none, "", "", "", none⟩

def loginFiles : List String := replicate 11 "login.py"

def loginWork : Work := ⟨loginFiles, .list [.int 1], none, .null⟩

/-- Eleven files with its title put an issue before the selected one. -/
theorem other_issue_first : ∃ w, Keeps w [untitled 1, login] ∧ Seeks w loginFiles loginWork ∧
    loginWork.Branched (untitled 1) ∧ ¬ loginWork.Branched login ∧
    (∃ calls, (findRelated loginFiles).exec w =
      (.ok ((loginWork.ranking [untitled 1, login]).map loginWork.relationTo), { w with calls })) ∧
    ¬ (loginWork.ranking [untitled 1, login]).Pairwise
      (fun a b => loginWork.Branched b → loginWork.Branched a) := by
  obtain ⟨s, hkeeps⟩ := @exists_keeps [untitled 1, login] (by decide)
  obtain ⟨t, hsaved⟩ :=
    exists_exec_savedEnvironment (@writable_numbers [1] _ (by decide)) "relatedIssues"
  have hseeks : Seeks (folder (some s) t) loginFiles loginWork :=
    ⟨⟨_, hsaved (some s), rfl, rfl, fun _ => ⟨.null, rfl⟩⟩, _, _, rfl, rfl⟩
  have hselected : loginWork.Branched (untitled 1) := .inl (by decide)
  have hother : ¬ loginWork.Branched login := by
    rintro (h | h)
    · exact absurd h (by decide)
    · cases h
  obtain ⟨hfound, hfirst⟩ := branch_issues_first_iff (hkeeps t) (fun n => ⟨_, rfl⟩) hseeks
  refine ⟨_, hkeeps t, hseeks, hselected, hother, hfound, fun h => ?_⟩
  have hmerits : loginWork.merits login = 110 := by decide
  have hle :=
    (hfirst.mp h _ _ hselected hother (by decide) (by rw [hmerits]; decide)).1 (Sublist.refl _)
  rw [hmerits] at hle
  exact absurd hle (by decide)

end Suggesting

end Workbench.Issue
