import Workbench.Proofs.Branch.Plan
import Workbench.Proofs.Json.Numbers

/-!
# The tag of a release

When a release is finished, the version in the name of its branch is tagged: three groups of digits
with dots between them.
-/

open List hiding take

namespace Workbench.Branch

open Option Decimal Text

open Tool (Records)

variable {s u ds rest : Chars}

/-! ### Versions in names -/

lemma digits?_append (hds : ∀ x ∈ ds, isDecimal x = true) (hne : ds ≠ [])
    (hrest : ∀ x ∈ rest.head?, isDecimal x = false) :
    Release.Version.digits? (ds ++ rest) = some (ds, rest) := by
  have htake := takeWhile_run hds hrest
  have hempty : ds.isEmpty = false := by simpa using hne
  unfold Release.Version.digits?
  simp only [htake, hempty, Bool.false_eq_true, if_false, drop_left]

lemma versionAtFront?_of_head (h : ∀ x ∈ s.head?, isDecimal x = false) :
    versionAtFront? s = none := by
  have htake : s.takeWhile isDecimal = [] := takeWhile_run (u := []) (by simp) h
  unfold versionAtFront? Release.Version.digits?
  simp only [htake, isEmpty_nil, if_true]
  rfl

lemma versionAtFront?_of_notMem (h : '.' ∉ s) : versionAtFront? s = none := by
  have hdot : ∀ n, Release.Version.dropDot? (s.drop n) = none := by
    intro n
    unfold Release.Version.dropDot?
    split
    · rename_i rest hrest
      exact absurd (mem_of_mem_drop (hrest ▸ mem_cons_self)) h
    · rfl
  unfold versionAtFront? Release.Version.digits?
  by_cases hempty : (s.takeWhile isDecimal).isEmpty = true
  · simp only [hempty, if_true]
    rfl
  · simp only [hempty, Bool.false_eq_true, if_false, bind_eq_bind, bind_some, hdot]
    rfl

lemma versionIn?_of_notMem (h : '.' ∉ s) : versionIn? s = none := by
  induction s with
  | nil => rfl
  | cons x s ih =>
    rw [versionIn?, versionAtFront?_of_notMem h, ih fun hs => h (mem_cons_of_mem _ hs)]
    rfl

lemma versionIn?_append (h : ∀ x ∈ u, isDecimal x = false) :
    versionIn? (u ++ s) = versionIn? s := by
  induction u with
  | nil => rfl
  | cons x u ih =>
    obtain ⟨hx, hu⟩ := forall_mem_cons.mp h
    have hhead : ∀ y ∈ (x :: (u ++ s)).head?, isDecimal y = false := by
      intro y hy
      obtain rfl : x = y := by simpa using hy
      exact hx
    rw [cons_append, versionIn?, versionAtFront?_of_head hhead, ih hu]
    rfl

/-- A version of three numbers. -/
def versionText (a b p : Nat) : String := toString a ++ "." ++ toString b ++ "." ++ toString p

/-- Three numbers with dots between them. -/
def dotted (a b p : Nat) : Chars :=
  Nat.toDigits 10 a ++ '.' :: (Nat.toDigits 10 b ++ '.' :: Nat.toDigits 10 p)

lemma toList_versionText (a b p : Nat) : (versionText a b p).toList = dotted a b p := by
  simp [versionText, dotted, Nat.repr]

/-- Three numbers with nothing between them. -/
def undotted (a b p : Nat) : Chars := Nat.toDigits 10 a ++ (Nat.toDigits 10 b ++ Nat.toDigits 10 p)

lemma versionIn?_dotted (a b p : Nat) : versionIn? (dotted a b p) = some (dotted a b p) := by
  have hdot : ∀ t : Chars, ∀ x ∈ ('.' :: t).head?, isDecimal x = false := by
    intro t x hx
    obtain rfl : '.' = x := by simpa using hx
    decide
  have hlast : Release.Version.digits? (Nat.toDigits 10 p ++ []) = some (Nat.toDigits 10 p, []) :=
    digits?_append (isDecimal_of_mem_toDigits p) Nat.toDigits_ne_nil (by simp)
  have hmiddle :=
    digits?_append (isDecimal_of_mem_toDigits b) Nat.toDigits_ne_nil (hdot (Nat.toDigits 10 p))
  have hfirst := digits?_append (isDecimal_of_mem_toDigits a) Nat.toDigits_ne_nil
    (hdot (Nat.toDigits 10 b ++ '.' :: Nat.toDigits 10 p))
  have hfront : versionAtFront? (dotted a b p) = some (dotted a b p) := by
    rw [append_nil] at hlast
    unfold versionAtFront? dotted
    simp only [hfirst, hmiddle, hlast, Release.Version.dropDot?, bind_eq_bind, bind_some]
    simp
  obtain ⟨x, t, ht⟩ := exists_cons_of_ne_nil (l := dotted a b p) (by simp [dotted])
  rw [ht] at hfront ⊢
  rw [versionIn?, hfront]
  rfl

/-! ### The name of a release -/

lemma toNat_of_mem_undotted {a b p : Nat} {x : Char} (h : x ∈ undotted a b p) :
    48 ≤ x.toNat ∧ x.toNat ≤ 57 := by
  simp only [undotted, mem_append] at h
  rcases h with h | h | h
  all_goals exact toNat_of_mem_toDigits h

lemma ne_of_mem_undotted {a b p : Nat} {x : Char} (h : x ∈ undotted a b p) : x ≠ '-' ∧ x ≠ '.' := by
  have hdigit := toNat_of_mem_undotted h
  constructor
  · rintro rfl
    exact absurd hdigit (by decide)
  · rintro rfl
    exact absurd hdigit (by decide)

lemma cleaned_versionText (a b p : Nat) : cleaned (versionText a b p) = undotted a b p := by
  have hchars : ∀ x ∈ dotted a b p, 48 ≤ x.toNat ∧ x.toNat ≤ 57 ∨ x = '.' := by
    intro x hx
    simp only [dotted, mem_append, mem_cons] at hx
    rcases hx with hx | hx | hx | hx | hx
    · exact .inl (toNat_of_mem_toDigits hx)
    · exact .inr hx
    · exact .inl (toNat_of_mem_toDigits hx)
    · exact .inr hx
    · exact .inl (toNat_of_mem_toDigits hx)
  have hlower : (lower (versionText a b p)).toList = dotted a b p := by
    rw [lower, String.toList_ofList, toList_versionText, lowerFrom_of_ascii]
    intro x hx
    rcases hchars x hx with hdigit | rfl
    · omega
    · decide
  have hhyphened : (dotted a b p).map (fun c => if c == ' ' || c == '_' then '-' else c) =
      dotted a b p := by
    refine map_hyphen_eq_self fun x hx => ⟨?_, ?_⟩
    · rintro rfl
      exact absurd (hchars _ hx) (by decide)
    · rintro rfl
      exact absurd (hchars _ hx) (by decide)
  have hdigits : ∀ n, (Nat.toDigits 10 n).filter isNameChar = Nat.toDigits 10 n :=
    fun n => filter_eq_self.mpr fun x hx => isNameChar_of_mem_toDigits hx
  have hdot : isNameChar '.' = false := by decide
  have hfilter : (dotted a b p).filter isNameChar = undotted a b p := by
    unfold dotted undotted
    simp only [filter_append, filter_cons, hdigits, hdot, Bool.false_eq_true, if_false]
  have hplain : ∀ x ∈ undotted a b p, (x == '-') = false :=
    fun x hx => beq_eq_false_iff_ne.mpr (ne_of_mem_undotted hx).1
  rw [cleaned, hlower, hhyphened, hfilter]
  exact trimWhile_eq_self (fun x hx => hplain x (mem_of_mem_head? hx))
    fun x hx => hplain x (mem_of_mem_getLast? hx)

/-- The name that is made for the release of a version: the digits of the version behind the prefix,
cut to the greatest length. -/
def releaseName (a b p : Nat) : String :=
  take ("release/" ++ toString a ++ toString b ++ toString p) 64

lemma toList_releaseName (a b p : Nat) :
    (releaseName a b p).toList = ("release/".toList ++ undotted a b p).take 64 := by
  simp [releaseName, take, undotted, Nat.repr]

lemma ofList_releaseName (a b p : Nat) :
    .ofList (("release/".toList ++ undotted a b p).take 64) = releaseName a b p :=
  String.toList_injective (String.toList_ofList.trans (toList_releaseName a b p).symm)

lemma front_releaseName (a b p : Nat) : "release/".toList <+: (releaseName a b p).toList := by
  have hparts : ("release/".toList ++ undotted a b p).take 64 = "release/".toList ++
      (undotted a b p).take 56 := rfl
  exact ⟨(undotted a b p).take 56, hparts.symm.trans (toList_releaseName a b p).symm⟩

lemma versionIn?_releaseName (a b p : Nat) : versionIn? (releaseName a b p).toList = none := by
  refine versionIn?_of_notMem fun hdot => ?_
  rw [toList_releaseName] at hdot
  rcases mem_append.mp (mem_of_mem_take hdot) with hlead | hdigits
  · exact absurd hlead (by decide)
  · exact (ne_of_mem_undotted hdigits).2 rfl

lemma makeName_versionText (a b p : Nat) :
    makeName "release" (versionText a b p) 0 builtIn = .ok (releaseName a b p) := by
  have hsetting : Setting builtIn "release" "release/" (.int 64) := ⟨⟨_, rfl, rfl⟩, rfl, rfl⟩
  have hne : cleaned (versionText a b p) ≠ [] := by
    rw [cleaned_versionText]
    simp [undotted]
  have hmark : issueMark 0 ++ undotted a b p = undotted a b p := rfl
  rw [makeName_eq hsetting _ 0 hne, cleaned_versionText, hmark, before_of_whole rfl rfl]
  by_cases hlong : (64 : Int) < ("release/".toList ++ undotted a b p).length
  · have hplain : ∀ x ∈ ("release/".toList ++ undotted a b p).take 64, (x == '-') = false := by
      intro x hx
      rw [beq_eq_false_iff_ne]
      rcases mem_append.mp (mem_of_mem_take hx) with hlead | hdigits
      · rintro rfl
        exact absurd hlead (by decide)
      · exact (ne_of_mem_undotted hdigits).1
    have hcut : cutTo 64 ("release/".toList ++ undotted a b p) =
        ("release/".toList ++ undotted a b p).take 64 := by
      have hlimit : (64 : Int).toNat = 64 := rfl
      rw [cutTo, if_neg (by decide), hlimit, dropEndWhile_eq, rdropWhile_eq_self_iff]
      intro hne
      rw [hplain _ (getLast_mem hne)]
      exact Bool.false_ne_true
    simp only [hlong, decide_true, bind, Except.bind, if_true, Value.whole?, hcut,
      ofList_releaseName]
    rfl
  · have hall : ("release/".toList ++ undotted a b p).take 64 = "release/".toList ++
        undotted a b p :=
      take_of_length_le (by omega)
    rw [← ofList_releaseName, hall]
    simp only [hlong, decide_false, bind, Except.bind, Bool.false_eq_true, if_false]
    rfl

/-! ### Starting -/

/-- The call is made if all goes well. -/
def Reaches (call : Argv) (es : List Event) : Prop :=
  (∀ e ∈ es, GoesWell e) → call ∈ es.map Prod.fst

variable {α β : Type} {t : Tool α} {f : α → Tool β} {cs : List Argv} {call : Argv}

lemma reaches_bind (ht : Records t (Makes cs))
    (hf : ∀ a, Records (f a) fun _ es => Reaches call es) :
    Records (t >>= f) fun _ es => Reaches call es := by
  refine (ht.bind hf).mono ?_
  rintro r es (⟨e, rfl, hmakes⟩ | ⟨a, es₁, es₂, rfl, -, hreaches⟩)
  · intro hwell
    obtain ⟨a, ha⟩ := hmakes.ends hwell
    cases ha
  · intro hwell
    rw [map_append]
    exact mem_append_right _ (hreaches fun e he => hwell e (mem_append_right _ he))

lemma reaches_say_bind {u : Unit → Tool β} (line : String)
    (hu : Records (u ()) fun _ es => Reaches call es) :
    Records (Tool.say line >>= u) fun _ es => Reaches call es :=
  reaches_bind (makes_say line) fun _ => hu

lemma records_if {b : Prop} [Decidable b] {t t' : Tool α} {Q : Result α → List Event → Prop}
    (ht : Records t' Q → Records t Q) (ht' : Records t' Q) : Records (if b then t else t') Q := by
  by_cases hb : b
  · rw [if_pos hb]
    exact ht ht'
  · rw [if_neg hb]
    exact ht'

lemma start_creates {c : Config} {type description name : String} {issue : Int}
    {strategy flows flow base : Value} (hstrategy : c.strategy "gitflow" = .ok strategy)
    (hflows : c.flows = .ok flows)
    (hhas : flows.hasText type = .ok true) (hflow : flows.field type = .ok flow)
    (hbase : baseOf flow c = .ok base) (hname : makeName type description issue c = .ok name)
    {w w' : World} (hload : load.exec w = (.ok c, w'))
    (hwell : Obliging w) :
    ["git", "checkout", "-b", name] ∈ ((start type description issue).events w).map Prod.fst := by
  obtain ⟨es, hadds, -⟩ := records_load w
  rw [hload] at hadds
  suffices hrest : ∃ es', Tool.Adds w' ((start type description issue).exec w).2 es' ∧
      Reaches ["git", "checkout", "-b", name] es' by
    obtain ⟨es', hadds', hreaches⟩ := hrest
    have hall := hadds.trans hadds'
    rw [hall.events_eq, map_append]
    refine mem_append_right _ (hreaches fun e he => ?_)
    exact goesWell_of_obliging hall hwell e (mem_append_right _ he)
  unfold start
  rw [Tool.exec_bind_ok hload]
  suffices hrecords : Records _ fun _ es' =>
      Reaches ["git", "checkout", "-b", name] es' from hrecords w'
  refine records_lift_bind_ok hstrategy (records_lift_bind_ok hflows (records_lift_bind_ok hhas ?_))
  dsimp only
  rw [if_neg (by decide)]
  refine records_lift_bind_ok hflow (records_lift_bind_ok hbase (records_lift_bind_ok hname ?_))
  refine reaches_bind (makes_sayAll _) fun _ => reaches_bind (makes_git _) fun branch => ?_
  refine records_if (fun h => reaches_say_bind _ (reaches_bind (makes_run _) fun _ => h)) ?_
  refine reaches_say_bind _ (reaches_bind (makes_gitOrSay _ _) fun _ => reaches_say_bind _ ?_)
  -- The branch is made here; what follows prints only.
  refine (makes_bind (makes_run ["checkout", "-b", name]) fun _ => ?_).mono fun r es' hmakes _ => ?_
  · refine makes_bind (makes_sayAll _) fun _ => ?_
    refine records_if (fun h => makes_bind (makes_say _) fun _ => h)
      (makes_bind (makes_sayAll _) fun _ => ?_)
    exact records_if (fun h => makes_bind (makes_say _) fun _ => h) (makes_say _)
  · rw [hmakes.calls]
    exact mem_singleton.mpr rfl

/-! ### Finishing -/

lemma not_tags_of_asks {call : Argv} (h : Asks call) : ¬ ["git", "tag"] <+: call := by
  obtain ⟨more, rfl⟩ := h
  simp

lemma mem_tagCalls_of_tags {f : Finish} {call : Argv} (hcall : call ∈ f.plan)
    (h : ["git", "tag"] <+: call) :
    call ∈ tagCalls f.branch := by
  rcases mem_plan.mp hcall with rfl | ⟨target, -, hmerge⟩ | ⟨-, htag⟩ | ⟨-, hdelete⟩
  · exact absurd h (by decide)
  · rcases mem_mergeCalls.mp hmerge with rfl | rfl | rfl | ⟨-, rfl⟩ | rfl
    all_goals simp [pushCall] at h
  · exact htag
  · simp only [deleteCalls, mem_cons, not_mem_nil, or_false] at hdelete
    rcases hdelete with rfl | rfl
    all_goals simp at h

lemma tagCalls_releaseName (a b p : Nat) : tagCalls (releaseName a b p) = [] := by
  unfold tagCalls
  rw [versionIn?_releaseName]

lemma tagCall_mem_tagCalls {lead : String} (h : ∀ x ∈ lead.toList, isDecimal x = false)
    (a b p : Nat) :
    tagCall (versionText a b p).toList ∈ tagCalls (lead ++ versionText a b p) := by
  unfold tagCalls
  rw [String.toList_append, versionIn?_append h, toList_versionText, versionIn?_dotted]
  exact mem_cons_self

/-- The releases that are started for a version are merged into both branches and never tagged,
however git behaves, while the version would be tagged if the branch were named after it. -/
theorem finish_started_release_untagged (a b p : Nat) :
    makeName "release" (versionText a b p) 0 builtIn = .ok (releaseName a b p) ∧
    ∀ w w', load.exec w = (.ok builtIn, w') →
      (∀ e ∈ (finish (some (releaseName a b p))).events w, ¬ ["git", "tag"] <+: e.1) ∧
      (Obliging w →
        ["git", "checkout", "-b", releaseName a b p] ∈
          ((start "release" (versionText a b p) 0).events w).map Prod.fst ∧
        ((finish (some (releaseName a b p))).exec w).1 = .ok () ∧
        (∀ target ∈ ["main", "develop"],
          pushCall target ∈ ((finish (some (releaseName a b p))).events w).map Prod.fst) ∧
        tagCall (versionText a b p).toList ∈
          ((finish (some ("release/" ++ versionText a b p))).events w).map Prod.fst) := by
  have hname := makeName_versionText a b p
  refine ⟨hname, fun w w' hload => ?_⟩
  obtain ⟨flow, halong, -⟩ := along_release (front_releaseName a b p)
  have hchosen : ∀ name, (chosen (some name)).exec w' = (.ok name, w') :=
    fun name => Tool.exec_pure name w'
  obtain ⟨asked, done, hcalls, hasks, hdone, hall⟩ := halong.exists_calls hload (hchosen _)
  refine ⟨fun e he htagged => ?_, fun hwell => ⟨?_, ?_, fun target htarget => ?_, ?_⟩⟩
  · have hcall : e.1 ∈ asked ++ done := hcalls ▸ List.mem_map_of_mem he
    rcases List.mem_append.mp hcall with hcall | hcall
    · exact not_tags_of_asks (hasks _ hcall) htagged
    · have htags := mem_tagCalls_of_tags (hdone.subset hcall) htagged
      rw [Flow.finish, tagCalls_releaseName] at htags
      cases htags
  · exact start_creates rfl rfl rfl rfl rfl hname hload hwell
  · exact (hall hwell).1
  · exact halong.pushes hload (hchosen _) hwell htarget
  · have hfront : "release/".toList <+: ("release/" ++ versionText a b p).toList := by
      rw [String.toList_append]
      exact List.prefix_append _ _
    obtain ⟨flow, halong, htag⟩ := along_release hfront
    obtain ⟨asked, done, hcalls, -, -, hall⟩ := halong.exists_calls hload (hchosen _)
    have hlead : "release/".toList.all (fun x => !isDecimal x) = true := by decide
    rw [hcalls, (hall hwell).2]
    refine List.mem_append_right _ (mem_plan.mpr (.inr (.inr (.inl ⟨htag, ?_⟩))))
    exact tagCall_mem_tagCalls (fun x hx => by simpa using List.all_eq_true.mp hlead x hx) a b p

/-- The release of a version is started, merged and deleted in an empty world, and a branch with the
dots is tagged. -/
theorem finish_started_release_untagged_two :
    releaseName 2 0 0 = "release/200" ∧
    (∀ e ∈ (finish (some "release/200")).events {}, ¬ ["git", "tag"] <+: e.1) ∧
    ["git", "checkout", "-b", "release/200"] ∈ ((start "release" "2.0.0" 0).events {}).map
      Prod.fst ∧
    ["git", "push", "origin", "main"] ∈ ((finish (some "release/200")).events {}).map Prod.fst ∧
    ["git", "tag", "-a", "v2.0.0", "-m", "Release 2.0.0"] ∈
      ((finish (some "release/2.0.0")).events {}).map Prod.fst := by
  obtain ⟨w, hload⟩ := exists_load_empty
  obtain ⟨-, hrest⟩ := finish_started_release_untagged 2 0 0
  obtain ⟨huntagged, hall⟩ := hrest {} w hload
  obtain ⟨hcreated, -, hpushed, htagged⟩ := hall obliging_empty
  exact ⟨by decide, huntagged, hcreated, hpushed "main" (by simp), htagged⟩

end Workbench.Branch
