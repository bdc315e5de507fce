import Workbench.Proofs.Codebase.Trace

/-!
# Where an import leads

The target of an import is the first of several paths that exists.  `import_finds_file_iff` says
when that is a file.
-/

open List

namespace Workbench

open Text Files

/-! ### Names below a resolved path -/

namespace Path

lemma resolveParts_append {ms : List String} (hms : ∀ m ∈ ms, m ≠ "..") (above ns : List String) :
    resolveParts above (ns ++ ms) = resolveParts above ns ++ ms := by
  induction ns generalizing above with
  | nil =>
    induction ms generalizing above with
    | nil => simp [resolveParts]
    | cons m ms ih =>
      obtain ⟨hm, hms⟩ := forall_mem_cons.mp hms
      have hrest : resolveParts (m :: above) ms = resolveParts (m :: above) [] ++ ms :=
        ih hms (m :: above)
      have hstep : resolveParts above (m :: ms) = resolveParts (m :: above) ms :=
        if_neg (by simpa using hm)
      rw [nil_append, hstep, hrest]
      simp [resolveParts]
  | cons n ns ih =>
    rw [cons_append, resolveParts, resolveParts]
    split_ifs
    · exact ih _
    · exact ih _

lemma resolve_below {s : String} {ns : List String} (hs : Path.ofString s = ⟨false, ns⟩)
    (hns : ∀ n ∈ ns, IsName n) (cwd p : Path) :
    Path.resolve cwd (p / s) = ⟨true, (Path.resolve cwd p).parts ++ ns⟩ := by
  have hchild : p / s = ⟨p.absolute, p.parts ++ ns⟩ := by
    show p.append (Path.ofString s) = _
    rw [hs, append, if_neg (by simp)]
  have hdots : ∀ n ∈ ns, n ≠ ".." := fun n hn => (hns n hn).ne_dots
  rw [resolve, resolve, hchild, append, append]
  split_ifs
  · rw [resolveParts_append hdots]
  · rw [← append_assoc, resolveParts_append hdots]

/-- A path from the same directory. -/
lemma ofString_here {ns : List String} (hns : ∀ n ∈ ns, IsName n) (hne : ns ≠ []) :
    Path.ofString ("./" ++ join "/" ns) = ⟨false, ns⟩ := by
  have htext : ("./" ++ join "/" ns).toList = ['.'] ++ '/' :: (join "/" ns).toList := by simp
  have hnames : (splitWhere (· == '/') (join "/" ns).toList).map String.ofList = ns :=
    namesOf_join hns hne
  have hsplit : (splitWhere (· == '/') ("./" ++ join "/" ns).toList).map String.ofList =
      "." :: ns := by
    rw [htext, splitWhere_append (by simp), map_append, hnames]
    rfl
  have hkeep : ns.filter (fun n => n != "" && n != ".") = ns := by
    refine filter_eq_self.mpr fun n hn => ?_
    simp [(hns n hn).ne_empty, (hns n hn).ne_dot]
  rw [Path.ofString, hsplit, filter_cons_of_neg (by simp), hkeep, htext]
  rfl

end Path

/-! ### What holds something is a directory -/

namespace Files

variable {t : Files} {n m : String} {node : Node}

/-- The places that links stand for are directories. -/
def LinksLead (t : Files) : Prop := ∀ l ∈ t.links, t.node? l.2 = some .dir

/-- A name that others follow is entered. -/
lemma exists_of_walk_cons {here q : Place} {a : String} {ns : List String} (hne : ns ≠ [])
    (h : t.walk here (a :: ns) = .ok q) :
    ∃ next, t.walk next ns = .ok q ∧ (∀ ms, ms ≠ [] → t.walk here (a :: ms) = t.walk next ms) ∧
      (IsName a → t.walk here [a] = .ok next ∧ t.node? next = some .dir) := by
  obtain ⟨b, bs, rfl⟩ := exists_cons_of_ne_nil hne
  rw [walk] at h
  split_ifs at h with hlong hdot hdots
  · rcases hnode : t.node? here with _ | ⟨_, _⟩ | _ <;> rw [hnode] at h
    · cases h
    · cases h
    · refine ⟨here, h, fun ms hms => ?_, fun ha => ?_⟩
      · rw [walk, if_neg hlong, if_pos hdot, hnode]
      · simp [ha.ne_empty, ha.ne_dot] at hdot
  · rcases hnode : t.node? here with _ | ⟨_, _⟩ | _ <;> rw [hnode] at h
    · cases h
    · cases h
    · refine ⟨here.dropLast, h, fun ms hms => ?_, fun ha => ?_⟩
      · rw [walk, if_neg hlong, if_neg hdot, if_pos hdots, hnode]
      · simp [ha.ne_dots] at hdots
  · dsimp only at h
    rcases hnode : t.node? (here ++ [a]) with _ | ⟨_, _⟩ | _ <;> rw [hnode] at h
    · cases h
    · cases h
    · refine ⟨here ++ [a], h, fun ms hms => ?_, fun _ => ⟨?_, hnode⟩⟩
      · obtain ⟨c, cs, rfl⟩ := exists_cons_of_ne_nil hms
        rw [walk, if_neg hlong, if_neg hdot, if_neg hdots]
        dsimp only
        rw [hnode]
      · rw [walk, if_neg hlong, if_neg hdot, if_neg hdots]

lemma exists_walk_above {here q : Place} {ns : List String} (hm : IsName m)
    (h : t.walk here (ns ++ [m, n]) = .ok q) :
    ∃ p, t.walk here (ns ++ [m]) = .ok p ∧ t.node? p = some .dir := by
  induction ns generalizing here with
  | nil =>
    obtain ⟨next, -, -, hlast⟩ := exists_of_walk_cons (by simp) h
    exact ⟨next, hlast hm⟩
  | cons a ns ih =>
    obtain ⟨next, hnext, hsame, -⟩ := exists_of_walk_cons (by simp) h
    obtain ⟨p, hp, hdir⟩ := ih hnext
    exact ⟨p, by rw [cons_append, hsame _ (by simp), hp], hdir⟩

lemma exists_walkFromRoot_above {q : Place} {ns : List String} (hlinks : t.LinksLead)
    (hm : IsName m) (h : t.walkFromRoot (ns ++ [m, n]) = .ok q) :
    ∃ p, t.walkFromRoot (ns ++ [m]) = .ok p ∧ t.node? p = some .dir := by
  have hkeep : ∀ ms, (m :: ms).dropWhile (· == "") = m :: ms :=
    fun ms => dropWhile_cons_of_neg (by simpa using hm.ne_empty)
  rw [walkFromRoot, dropWhile_append, hkeep] at h
  rw [walkFromRoot, dropWhile_append, hkeep]
  cases hfront : ns.dropWhile (· == "") with
  | nil =>
    rw [hfront] at h
    simp only [isEmpty_nil, if_true] at h ⊢
    cases hlink : t.links.lookup m with
    | none =>
      rw [hlink] at h
      have hwalk : t.walk [] ([] ++ [m, n]) = .ok q := h
      exact exists_walk_above hm hwalk
    | some place =>
      obtain ⟨before, after, hparts, -⟩ := lookup_eq_some_iff.mp hlink
      exact ⟨place, rfl, hlinks (m, place) (by simp [hparts])⟩
  | cons a as =>
    rw [hfront] at h
    simp only [isEmpty_cons, cons_append, Bool.false_eq_true, if_false] at h ⊢
    cases hlink : t.links.lookup a with
    | none =>
      rw [hlink] at h
      have hwalk : t.walk [] ((a :: as) ++ [m, n]) = .ok q := h
      exact exists_walk_above hm hwalk
    | some place =>
      rw [hlink] at h
      exact exists_walk_above hm h

lemma locate_eq {cwd : Place} {raw : String} (hne : raw ≠ "") (hfits : raw.utf8ByteSize ≤ 4095) :
    t.locate cwd raw =
    if raw.toList.head? == some '/' then t.walkFromRoot (namesOf raw)
    else t.walk cwd (namesOf raw) := by
  rw [locate, if_neg (by simpa using hne), if_neg (by omega)]
  rfl

lemma walks_of_locate {cwd p : Place} {raw : String} (h : t.locate cwd raw = .ok p) :
    raw ≠ "" ∧ raw.utf8ByteSize ≤ 4095 ∧
    (if raw.toList.head? == some '/' then t.walkFromRoot (namesOf raw)
      else t.walk cwd (namesOf raw)) = .ok p := by
  by_cases hne : raw = ""
  · rw [locate, if_pos (by simp [hne])] at h
    cases h
  by_cases hfits : raw.utf8ByteSize ≤ 4095
  · exact ⟨hne, hfits, locate_eq hne hfits ▸ h⟩
  · rw [locate, if_neg (by simpa using hne), if_pos (by omega)] at h
    cases h

/-- Below a path that ends in a name there is something only if the path leads to a directory. -/
theorem stat_above {cwd : Place} {raw : String} {ns : List String} (hlinks : t.LinksLead)
    (hnames : namesOf raw = ns ++ [m]) (hm : IsName m) (hn : IsName n)
    (h : t.stat cwd (raw ++ "/" ++ n) = .ok node) : t.stat cwd raw = .ok .dir := by
  have hbelow : namesOf (raw ++ "/" ++ n) = ns ++ [m, n] := by
    rw [namesOf_append hn, hnames, append_assoc]
    rfl
  have hne : raw ≠ "" := by
    rintro rfl
    have hlast := congrArg getLast? hnames
    rw [getLast?_concat] at hlast
    exact hm.ne_empty (Option.some.inj hlast).symm
  have hhead : (raw ++ "/" ++ n).toList.head? = raw.toList.head? := by
    obtain ⟨c, s, hs⟩ := exists_cons_of_ne_nil (mt String.toList_eq_nil_iff.mp hne)
    simp [hs]
  have hsize : (raw ++ "/" ++ n).utf8ByteSize = raw.utf8ByteSize + 1 + n.utf8ByteSize := by
    rw [String.utf8ByteSize_append, String.utf8ByteSize_append]
    rfl
  obtain ⟨hlocate, -⟩ := stat_eq_ok_iff.mp h
  obtain ⟨-, hfits, hwalks⟩ := walks_of_locate hlocate
  rw [hhead, hbelow] at hwalks
  obtain ⟨p, hp, hdir⟩ : ∃ p, (if raw.toList.head? == some '/' then t.walkFromRoot (ns ++ [m])
      else t.walk cwd (ns ++ [m])) =
      .ok p ∧ t.node? p = some .dir := by
    split_ifs at hwalks ⊢
    · exact exists_walkFromRoot_above hlinks hm hwalks
    · exact exists_walk_above hm hwalks
  rw [stat, locate_eq hne (by omega), hnames, hp]
  simp [bind, Except.bind, hdir]

end Files

end Workbench

namespace Workbench.Codebase

open Tool Text Files

variable {w : World} {p q : Path} {target : String}

/-! ### The first path that exists -/

/-- Nothing is at the path. -/
def NotThere (w : World) (q : Path) : Prop := (pathExists q.toString).exec w = (.ok false, w)

/-- What is at the path. -/
def IsAt (w : World) (q : Path) (n : Node) : Prop := (nodeAt q.toString).exec w = (.ok (some n), w)

/-- The first of some paths at which something is. -/
def FirstAt (w : World) (ps : List Path) (q : Path) (n : Node) : Prop :=
  ∃ before after, ps = before ++ q :: after ∧ (∀ p ∈ before, NotThere w p) ∧ IsAt w q n

lemma exec_pathExists_iff : (pathExists q.toString).exec w = (.ok true, w) ↔ ∃ n, IsAt w q n := by
  rw [pathExists, Tool.exec_bind]
  constructor
  · intro h
    rcases hnode : (nodeAt q.toString).exec w with ⟨e | _ | n, w'⟩ <;> rw [hnode] at h
    · cases h
    · cases h
    · obtain rfl : w' = w := congrArg Prod.snd h
      exact ⟨n, hnode⟩
  · rintro ⟨n, hn⟩
    rw [hn]
    rfl

lemma firstAt_cons {ps : List Path} {n : Node} :
    FirstAt w (p :: ps) q n ↔ (q = p ∧ IsAt w p n) ∨ NotThere w p ∧ FirstAt w ps q n := by
  constructor
  · rintro ⟨_ | ⟨p', before⟩, after, hparts, hbefore, hq⟩
    · obtain ⟨rfl, rfl⟩ := cons.inj hparts
      exact .inl ⟨rfl, hq⟩
    · obtain ⟨rfl, rfl⟩ := cons.inj hparts
      obtain ⟨hp, hbefore⟩ := forall_mem_cons.mp hbefore
      exact .inr ⟨hp, before, after, rfl, hbefore, hq⟩
  · rintro (⟨rfl, hq⟩ | ⟨hp, before, after, rfl, hbefore, hq⟩)
    · exact ⟨[], ps, rfl, by simp, hq⟩
    · exact ⟨p :: before, after, rfl, forall_mem_cons.mpr ⟨hp, hbefore⟩, hq⟩

lemma not_firstAt_nil {n : Node} : ¬ FirstAt w [] q n := by
  rintro ⟨before, after, hparts, -⟩
  simp at hparts

/-- A path, or a name in one, is longer than allowed. -/
def TooLong (e : Fault) : Prop := ∃ raw, e = .file .nameTooLong raw

lemma tooLong_of_pathExists {raw : String} {e : Fault}
    (h : (pathExists raw).exec w = (.error e, w)) : TooLong e := by
  rw [pathExists, Tool.exec_bind, exec_nodeAt] at h
  by_cases hnull : Char.ofNat 0 ∈ raw.toList
  · simp [hnull] at h
  · rcases hstat : w.files.stat w.cwd raw with (_ | _ | _ | _ | _) | n <;> simp [hnull, hstat] at h
    exact ⟨raw, h.symm⟩

/-- Looking for the first path that exists. -/
lemma exec_findM?_pathExists_eq (w : World) (ps : List Path) :
    (∃ q n, FirstAt w ps q n ∧ (ps.findM? fun p => pathExists p.toString).exec w =
      (.ok (some q), w)) ∨
    ((∀ p ∈ ps, NotThere w p) ∧ (ps.findM? fun p => pathExists p.toString).exec w = (.ok none, w)) ∨
    ((∀ q n, ¬ FirstAt w ps q n) ∧
      ∃ e, TooLong e ∧ (ps.findM? fun p => pathExists p.toString).exec w = (.error e, w)) := by
  induction ps with
  | nil => exact .inr (.inl ⟨by simp, rfl⟩)
  | cons p ps ih =>
    obtain ⟨r, hr⟩ := exec_pathExists p.toString w
    rw [findM?]
    rcases r with e | _ | _
    · refine .inr (.inr ⟨fun q n hfirst => ?_, e, tooLong_of_pathExists hr, exec_bind_error hr _⟩)
      rcases firstAt_cons.mp hfirst with ⟨-, hp⟩ | ⟨hp, -⟩
      · cases hr.symm.trans (exec_pathExists_iff.mpr ⟨n, hp⟩)
      · cases hr.symm.trans hp
    · have hnext : ∀ {q n}, FirstAt w (p :: ps) q n → FirstAt w ps q n := by
        intro q n hfirst
        rcases firstAt_cons.mp hfirst with ⟨-, hp⟩ | ⟨-, hrest⟩
        · cases hr.symm.trans (exec_pathExists_iff.mpr ⟨n, hp⟩)
        · exact hrest
      rcases ih with ⟨q, n, hfirst, hfind⟩ | ⟨hnone, hfind⟩ | ⟨hnone, e, hlong, hfind⟩
      · exact .inl ⟨q, n, firstAt_cons.mpr (.inr ⟨hr, hfirst⟩), (exec_bind_ok hr _).trans hfind⟩
      · exact .inr (.inl ⟨forall_mem_cons.mpr ⟨hr, hnone⟩, (exec_bind_ok hr _).trans hfind⟩)
      · exact .inr (.inr ⟨fun q n hfirst => hnone q n (hnext hfirst), e, hlong,
          (exec_bind_ok hr _).trans hfind⟩)
    · obtain ⟨n, hn⟩ := exec_pathExists_iff.mp hr
      exact .inl ⟨p, n, firstAt_cons.mpr (.inl ⟨rfl, hn⟩), exec_bind_ok hr _⟩

lemma IsAt.not_notThere {n : Node} (h : IsAt w q n) : ¬ NotThere w q := by
  intro hnone
  cases hnone.symm.trans (exec_pathExists_iff.mpr ⟨n, h⟩)

lemma IsAt.unique {n n' : Node} (h : IsAt w q n) (h' : IsAt w q n') : n = n' := by
  simpa using congrArg Prod.fst (h.symm.trans h')

lemma FirstAt.unique {ps : List Path} {q' : Path} {n n' : Node} (h : FirstAt w ps q n)
    (h' : FirstAt w ps q' n') :
    q = q' ∧ n = n' := by
  induction ps with
  | nil => exact absurd h not_firstAt_nil
  | cons p ps ih =>
    rcases firstAt_cons.mp h with ⟨rfl, hq⟩ | ⟨hp, h⟩
      <;> rcases firstAt_cons.mp h' with ⟨rfl, hq'⟩ | ⟨hp', h'⟩
    · exact ⟨rfl, hq.unique hq'⟩
    · exact absurd hp' hq.not_notThere
    · exact absurd hp hq'.not_notThere
    · exact ih h h'

lemma FirstAt.isAt {ps : List Path} {n : Node} : FirstAt w ps q n → IsAt w q n :=
  fun ⟨_, _, _, _, hq⟩ => hq

lemma FirstAt.mem {ps : List Path} {n : Node} : FirstAt w ps q n → q ∈ ps := by
  rintro ⟨before, after, rfl, -⟩
  simp

lemma isAt_iff {n : Node} :
    IsAt w q n ↔ Char.ofNat 0 ∉ q.toString.toList ∧ w.files.stat w.cwd q.toString = .ok n := by
  rw [IsAt, exec_nodeAt]
  by_cases hnull : Char.ofNat 0 ∈ q.toString.toList
  · simp [hnull]
  · rcases w.files.stat w.cwd q.toString with (_ | _ | _ | _ | _) | n <;> simp [hnull]

/-- Only a directory holds something. -/
lemma IsAt.above {m s : String} {n : Node} (hlinks : w.files.LinksLead) (hm : IsName m)
    (hs : IsName s) (h : IsAt w (p / m / s) n) : IsAt w (p / m) .dir := by
  have hparts : (p / m).parts ≠ [] := by simp [Path.child_eq hm]
  obtain ⟨hnull, hstat⟩ := isAt_iff.mp h
  obtain ⟨ns, hnames⟩ := Path.exists_namesOf_child hm p
  rw [Path.toString_child hs hparts] at hnull hstat
  refine isAt_iff.mpr ⟨fun hmem => hnull (by simp [hmem]), stat_above hlinks hnames hm hs hstat⟩

/-! ### What an import finds -/

/-- The target names something by its way down from the directory of the importing file. -/
structure Leads (target : String) (ns : List String) : Prop where
  relative : startsWith target "." = true
  path : Path.ofString target = ⟨false, ns⟩
  names : ∀ n ∈ ns, IsName n
  ne_nil : ns ≠ []

lemma leads_here {ns : List String} (hns : ∀ n ∈ ns, IsName n) (hne : ns ≠ []) :
    Leads ("./" ++ join "/" ns) ns where
  relative := by simp [startsWith, isFront, dropFront?]
  path := Path.ofString_here hns hne
  names := hns
  ne_nil := hne

lemma Leads.aimed_eq {ns : List String} (h : Leads target ns) (w : World) (file : Path) :
    ∃ dir : Path, ∃ m, IsName m ∧ m = ns.getLast h.ne_nil ∧ aimed w file target = dir / m := by
  have hm : IsName (ns.getLast h.ne_nil) := h.names _ (getLast_mem h.ne_nil)
  refine ⟨⟨true, (Path.resolve (w.files.pathTo w.cwd) file.parent).parts ++ ns.dropLast⟩,
    _, hm, rfl, ?_⟩
  rw [aimed, Path.resolve_below h.path h.names, Path.child_eq hm, append_assoc,
    dropLast_append_getLast h.ne_nil]

/-- The import finds something there. -/
def Finds (w : World) (file : Path) (target : String) (q : Path) (n : Node) : Prop :=
  (placeOfImport file target).exec w = (.ok (some q), w) ∧ IsAt w q n

/-- The names that stand for a place. -/
def spellings (place : Path) : List Path :=
  impliedExtensions.map fun e => place.parent / (place.name ++ e)

lemma firstAt_of_pairs {f g : String → Path} {es : List String} {n : Node}
    (hg : ∀ e ∈ es, ∀ n, ¬ IsAt w (g e) n) (h : FirstAt w (es.flatMap fun e => [f e, g e]) q n) :
    FirstAt w (es.map f) q n := by
  induction es with
  | nil => exact h
  | cons e es ih =>
    obtain ⟨he, hes⟩ := forall_mem_cons.mp hg
    rw [flatMap_cons, cons_append, firstAt_cons, cons_append, firstAt_cons] at h
    rw [map_cons, firstAt_cons]
    rcases h with hfirst | ⟨hnone, ⟨rfl, hq⟩ | ⟨-, h⟩⟩
    · exact .inl hfirst
    · exact absurd hq (he n)
    · exact .inr ⟨hnone, ih hes h⟩

lemma bare_spelling {m : String} (hm : IsName m) (dir : Path) :
    (dir / m).parent / ((dir / m).name ++ "") = dir / m := by
  rw [String.append_empty, Path.child_eq hm]
  simp [Path.parent, Path.name, Path.child_eq hm]

lemma candidates_eq {m : String} (hm : IsName m) (dir : Path) :
    ∃ others, candidates (dir / m) = dir / m :: others := by
  rw [candidates, impliedExtensions, flatMap_cons, cons_append, bare_spelling hm]
  exact ⟨_, rfl⟩

lemma spellings_eq {m : String} (hm : IsName m) (dir : Path) :
    ∃ others, spellings (dir / m) = dir / m :: others := by
  rw [spellings, impliedExtensions, map_cons, bare_spelling hm]
  exact ⟨_, rfl⟩

lemma Leads.finds_iff {ns : List String} {n : Node} {file : Path} (h : Leads target ns) :
    Finds w file target q n ↔ FirstAt w (candidates (aimed w file target)) q n := by
  obtain ⟨dir, m, hm, -, haimed⟩ := h.aimed_eq w file
  obtain ⟨others, hcandidates⟩ := candidates_eq hm dir
  rw [Finds, exec_placeOfImport_relative h.relative]
  rcases exec_findM?_pathExists_eq w (candidates (aimed w file target)) with
    ⟨q', n', hfirst, hfind⟩ | ⟨hnone, hfind⟩ | ⟨hnone, e, -, hfind⟩
  · rw [exec_bind_ok hfind, exec_pure]
    constructor
    · rintro ⟨heq, hq⟩
      obtain rfl : q' = q := by simpa using heq
      rwa [hq.unique hfirst.isAt]
    · intro hfirst'
      obtain ⟨rfl, rfl⟩ := hfirst.unique hfirst'
      exact ⟨rfl, hfirst.isAt⟩
  · rw [exec_bind_ok hfind, exec_pure]
    constructor
    · rintro ⟨heq, hq⟩
      obtain rfl : aimed w file target = q := by simpa using heq
      exact absurd (hnone _ (by simp [haimed, hcandidates])) hq.not_notThere
    · intro hfirst
      exact absurd (hnone q hfirst.mem) hfirst.isAt.not_notThere
  · rw [exec_bind_error hfind]
    exact ⟨fun h => by simp at h, fun hfirst => absurd hfirst (hnone q n)⟩

lemma Leads.finds_dir {ns : List String} {file : Path} (h : Leads target ns)
    (hdir : IsAt w (aimed w file target) .dir) :
    Finds w file target (aimed w file target) .dir := by
  obtain ⟨dir, m, hm, -, haimed⟩ := h.aimed_eq w file
  obtain ⟨others, hcandidates⟩ := candidates_eq hm dir
  rw [h.finds_iff, haimed, hcandidates]
  exact firstAt_cons.mpr (.inl ⟨rfl, haimed ▸ hdir⟩)

/-- What stands in a directory is never found, since the directory itself comes first. -/
lemma Leads.finds_spelling {ns : List String} {file : Path} {n : Node} (h : Leads target ns)
    (hlinks : w.files.LinksLead) (hfinds : Finds w file target q n) :
    FirstAt w (spellings (aimed w file target)) q n := by
  obtain ⟨dir, m, hm, -, haimed⟩ := h.aimed_eq w file
  have hindex : ∀ e ∈ impliedExtensions, IsName ("index" ++ e) := by decide
  by_cases hdir : IsAt w (aimed w file target) .dir
  · have hfirst := h.finds_iff.mp (h.finds_dir hdir)
    obtain ⟨rfl, rfl⟩ := hfirst.unique (h.finds_iff.mp hfinds)
    obtain ⟨others, hspellings⟩ := spellings_eq hm dir
    rw [haimed] at hdir ⊢
    exact hspellings ▸ firstAt_cons.mpr (.inl ⟨rfl, hdir⟩)
  · refine firstAt_of_pairs (fun e he n hat => hdir ?_) (h.finds_iff.mp hfinds)
    rw [haimed] at hat ⊢
    exact hat.above hlinks hm (hindex e he)

/-- An import of a name finds a file unless the first of the candidates that exists is a directory;
a directory of the name itself is found, not the index in it, and no index is ever found. -/
theorem import_finds_file_iff (w : World) (file : Path) {segments : List String}
    (hsegments : ∀ s ∈ segments, IsName s) (hne : segments ≠ []) :
    let target := "./" ++ join "/" segments
    let place := aimed w file target
    (((∀ q n, Finds w file target q n → n ≠ .dir) ∧
        (IsAt w place .dir → (∀ q ∈ spellings place, ∀ n, IsAt w q n → n = .dir) →
          (∃ n, IsAt w (place / "index.ts") n ∧ n ≠ .dir) →
            (placeOfImport file target).exec w = (.ok (some (place / "index.ts")), w))) ↔
      ∀ q, ¬ FirstAt w (candidates place) q .dir) ∧
    (IsAt w place .dir → (placeOfImport file target).exec w = (.ok (some place), w)) ∧
    (w.files.LinksLead → ∀ q n, Finds w file target q n → FirstAt w (spellings place) q n) := by
  intro target place
  have hleads : Leads target segments := leads_here hsegments hne
  refine ⟨⟨fun ⟨hfile, _⟩ q hfirst => ?_, fun hnone =>
    ⟨fun q n hfinds hn => ?_, fun hdir _ _ => ?_⟩⟩, fun hdir => (hleads.finds_dir hdir).1,
    fun hlinks q n hfinds => hleads.finds_spelling hlinks hfinds⟩
  · exact hfile q .dir (hleads.finds_iff.mpr hfirst) rfl
  · exact hnone q (hn ▸ hleads.finds_iff.mp hfinds)
  · exact absurd (hleads.finds_iff.mp (hleads.finds_dir hdir)) (hnone place)

/-- A directory with an index. -/
def indexedWorld : World :=
  { files :=
    { entries :=
      [(["p"], .dir), (["p", "d"], .dir), (["p", "d", "index.ts"], .file (.text "") false)] } }

/-- The directory is taken for the import, not the index file in it. -/
theorem import_of_indexed_directory :
    IsAt indexedWorld (script "d") .dir ∧
      IsAt indexedWorld (script "d" / "index.ts") (.file (.text "") false) ∧
    (placeOfImport (script "a.ts") ("./" ++ join "/" ["d"])).exec indexedWorld =
      (.ok (some (script "d")), indexedWorld) := by
  have haimed : aimed indexedWorld (script "a.ts") ("./" ++ join "/" ["d"]) = script "d" := by
    decide
  have hdir : IsAt indexedWorld (script "d") .dir := isAt_iff.mpr ⟨by decide, rfl⟩
  have hfound :=
    (import_finds_file_iff indexedWorld (script "a.ts") (by decide : ∀ s ∈ ["d"], IsName s)
      (by decide)).2.1
  rw [haimed] at hfound
  exact ⟨hdir, isAt_iff.mpr ⟨by decide, rfl⟩, hfound hdir⟩

end Workbench.Codebase
