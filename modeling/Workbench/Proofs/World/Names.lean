import Mathlib.Data.List.Induction
import Mathlib.Data.List.TakeWhile
import Workbench.Proofs.World.Tree

/-!
# Names below a path

A path with a further name leads to the place that has this name below the place of the path.  So
two different names below one path lead to two different places, whatever the path is.
-/

open List

namespace Workbench

open Text Files

namespace Text

variable {p : Char → Bool} {sep : String} {xs : List String}

lemma splitWhere_append {c : Char} (hc : p c = true) (s t : Chars) :
    splitWhere p (s ++ c :: t) = splitWhere p s ++ splitWhere p t := by
  induction s with
  | nil => simp [splitWhere, hc]
  | cons d s ih =>
    rw [cons_append, splitWhere, ih]
    split_ifs with hd
    · simp [splitWhere, hd]
    · cases hs : splitWhere p s with
      | nil =>
        have hne : splitWhere p s ≠ [] := by
          cases s with
          | nil => simp [splitWhere]
          | cons e s =>
            rw [splitWhere]
            split_ifs
            · simp
            · cases splitWhere p s <;> simp
        exact absurd hs hne
      | cons piece rest => simp [splitWhere, hd, hs]

lemma splitWhere_of_forall {s : Chars} (hs : ∀ c ∈ s, p c = false) : splitWhere p s = [s] := by
  induction s with
  | nil => rfl
  | cons c s ih =>
    rw [splitWhere, if_neg (by simp [hs c (by simp)]), ih fun d hd => hs d (by simp [hd])]

lemma mem_join {c : Char} (hc : c ∈ (join sep xs).toList) :
    c ∈ sep.toList ∨ ∃ x ∈ xs, c ∈ x.toList := by
  induction xs with
  | nil => cases hc
  | cons x xs ih =>
    cases xs with
    | nil => exact Or.inr ⟨x, by simp, hc⟩
    | cons y ys =>
      rw [join.eq_3 sep x (y :: ys) (by simp), String.toList_append, String.toList_append] at hc
      rcases mem_append.mp hc with hc | hc
      · rcases mem_append.mp hc with hc | hc
        · exact Or.inr ⟨x, by simp, hc⟩
        · exact Or.inl hc
      · exact (ih hc).imp_right fun ⟨z, hz, hcz⟩ => ⟨z, mem_cons_of_mem _ hz, hcz⟩

lemma join_append_append {ys : List String} (hxs : xs ≠ []) (hys : ys ≠ []) :
    join sep (xs ++ ys) = join sep xs ++ sep ++ join sep ys := by
  induction xs with
  | nil => exact absurd rfl hxs
  | cons x xs ih =>
    cases xs with
    | nil => exact join.eq_3 sep x ys hys
    | cons z zs =>
      rw [cons_append, join.eq_3 sep x _ (by simp), ih (by simp),
        join.eq_3 sep x (z :: zs) (by simp)]
      simp only [String.append_assoc]

lemma join_append (hxs : xs ≠ []) (x : String) : join sep (xs ++ [x]) = join sep xs ++ sep ++ x :=
  join_append_append hxs (by simp)

lemma join_map_join {xss : List (List String)} (h : ∀ xs ∈ xss, xs ≠ []) :
    join sep (xss.map (join sep)) = join sep xss.flatten := by
  induction xss with
  | nil => rfl
  | cons xs xss ih =>
    obtain ⟨hxs, hrest⟩ := forall_mem_cons.mp h
    cases xss with
    | nil => simp [join]
    | cons ys yss =>
      have hne : (ys :: yss).flatten ≠ [] := by
        rw [flatten_cons]
        exact append_ne_nil_of_left_ne_nil (hrest ys (by simp)) _
      rw [map_cons, join.eq_3 sep (join sep xs) _ (by simp), ih hrest]
      exact (join_append_append hxs hne).symm

end Text

namespace Files

variable {n : String}

/-- The names between the slashes of a path. -/
def namesOf (raw : String) : List String := (splitWhere (· == '/') raw.toList).map String.ofList

/-- A text that is one name of a path and leads below. -/
structure IsName (n : String) : Prop where
  ne_empty : n ≠ ""
  ne_dot : n ≠ "."
  ne_dots : n ≠ ".."
  noSlash : '/' ∉ n.toList

instance (n : String) : Decidable (IsName n) :=
  decidable_of_iff (n ≠ "" ∧ n ≠ "." ∧ n ≠ ".." ∧ '/' ∉ n.toList)
    ⟨fun h => ⟨h.1, h.2.1, h.2.2.1, h.2.2.2⟩, fun h => ⟨h.1, h.2, h.3, h.4⟩⟩

lemma IsName.split (hn : IsName n) : splitWhere (· == '/') n.toList = [n.toList] := by
  refine splitWhere_of_forall fun c hc => ?_
  simpa using fun h : c = '/' => hn.noSlash (h ▸ hc)

lemma namesOf_append (hn : IsName n) (raw : String) :
    namesOf (raw ++ "/" ++ n) = namesOf raw ++ [n] := by
  have hlist : (raw ++ "/" ++ n).toList = raw.toList ++ '/' :: n.toList := by simp
  rw [namesOf, hlist, splitWhere_append (by simp), hn.split, map_append, namesOf]
  simp

lemma aimFrom_append (here : Place) (xs ys : List String) :
    aimFrom here (xs ++ ys) = aimFrom (aimFrom here xs) ys := by
  induction xs generalizing here with
  | nil => rfl
  | cons x xs ih =>
    simp only [cons_append, aimFrom]
    split_ifs <;> exact ih _

lemma aimFrom_name (hn : IsName n) (here : Place) : aimFrom here [n] = here ++ [n] := by
  simp [aimFrom, hn.ne_empty, hn.ne_dot, hn.ne_dots]

/-- A name behind a path aims one level below it. -/
theorem aim_append {t : Files} {cwd : Place} {raw : String} (hraw : ∃ m ∈ namesOf raw, m ≠ "")
    (hn : IsName n) :
    t.aim cwd (raw ++ "/" ++ n) = t.aim cwd raw ++ [n] := by
  have hne : raw.toList ≠ [] := by
    intro hempty
    obtain ⟨m, hm, hne⟩ := hraw
    rw [namesOf, hempty] at hm
    simp [splitWhere] at hm
    exact hne hm
  have hhead : (raw ++ "/" ++ n).toList.head? = raw.toList.head? := by
    obtain ⟨c, s, hs⟩ := exists_cons_of_ne_nil hne
    simp [hs]
  have hnames : ∀ raw, t.aim cwd raw =
      if raw.toList.head? == some '/' then aimFromRoot t.links (namesOf raw)
      else aimFrom cwd (namesOf raw) :=
    fun _ => rfl
  rw [hnames, hnames, hhead, namesOf_append hn]
  split_ifs
  · -- the empty names at the front end before the path does, since one of its names is not empty
    obtain ⟨m, hm, hne⟩ := hraw
    cases hdrop : (namesOf raw).dropWhile (· == "") with
    | nil =>
      have hall := dropWhile_eq_nil_iff.mp hdrop m hm
      exact absurd (by simpa using hall) hne
    | cons q qs =>
      have hdrop' : (namesOf raw ++ [n]).dropWhile (· == "") = q :: (qs ++ [n]) := by
        rw [dropWhile_append, hdrop]
        rfl
      rw [aimFromRoot, aimFromRoot, hdrop, hdrop']
      dsimp only
      cases t.links.lookup q with
      | none =>
        dsimp only
        rw [← cons_append, aimFrom_append, aimFrom_name hn]
      | some place =>
        dsimp only
        rw [aimFrom_append, aimFrom_name hn]
  · rw [aimFrom_append, aimFrom_name hn]

end Files

namespace Path

variable {n : String} {p : Path}

lemma ofString_name (hn : IsName n) : Path.ofString n = ⟨false, [n]⟩ := by
  have hhead : (n.toList.head? == some '/') = false := by
    simpa using fun h => hn.noSlash (mem_of_mem_head? h)
  simp [Path.ofString, hn.split, hhead, hn.ne_empty, hn.ne_dot]

lemma child_eq (hn : IsName n) (p : Path) : p / n = ⟨p.absolute, p.parts ++ [n]⟩ := by
  show p.append (Path.ofString n) = _
  rw [ofString_name hn]
  rfl

lemma toString_child (hn : IsName n) (hp : p.parts ≠ []) :
    (p / n).toString = p.toString ++ "/" ++ n := by
  rw [child_eq hn, Path.toString, Path.toString]
  cases p.absolute
  · simp [hp, join_append hp]
  · simp [join_append hp, String.append_assoc]

lemma exists_namesOf_child (hn : IsName n) (p : Path) :
    ∃ ns, namesOf (p / n).toString = ns ++ [n] := by
  by_cases hp : p.parts = []
  · have halone : namesOf n = [n] := by
      rw [namesOf, hn.split]
      simp
    rw [child_eq hn, Path.toString, hp]
    cases p.absolute with
    | false => exact ⟨[], by simpa [join] using halone⟩
    | true => exact ⟨namesOf "", by simpa [join] using namesOf_append hn ""⟩
  · exact ⟨namesOf p.toString, by rw [toString_child hn hp, namesOf_append hn]⟩

lemma mem_namesOf_child (hn : IsName n) (p : Path) : n ∈ namesOf (p / n).toString := by
  obtain ⟨ns, hns⟩ := exists_namesOf_child hn p
  simp [hns]

/-! ### Paths in full -/

/-- An absolute path of plain names. -/
structure Canonical (p : Path) : Prop where
  absolute : p.absolute = true
  names : ∀ n ∈ p.parts, IsName n

lemma namesOf_join {ns : List String} (hns : ∀ n ∈ ns, IsName n) (hne : ns ≠ []) :
    namesOf (join "/" ns) = ns := by
  induction ns using List.reverseRecOn with
  | nil => exact absurd rfl hne
  | append_singleton ns n ih =>
    have hn : IsName n := hns n (by simp)
    by_cases hempty : ns = []
    · subst hempty
      show namesOf n = [n]
      rw [namesOf, hn.split]
      simp
    · rw [join_append hempty, namesOf_append hn, ih (fun m hm => hns m (by simp [hm])) hempty]

lemma Canonical.ofString_toString (hp : p.Canonical) : Path.ofString p.toString = p := by
  have hkeep : p.parts.filter (fun n => n != "" && n != ".") = p.parts := by
    refine filter_eq_self.mpr fun n hn => ?_
    simp [(hp.names n hn).ne_empty, (hp.names n hn).ne_dot]
  have htext : p.toString.toList = '/' :: (join "/" p.parts).toList := by
    simp [Path.toString, hp.absolute]
  have hsplit : (splitWhere (· == '/') p.toString.toList).map .ofList =
      "" :: namesOf (join "/" p.parts) := by
    rw [htext, splitWhere]
    simp [namesOf]
  have hread : ("" :: namesOf (join "/" p.parts)).filter (fun n => n != "" && n != ".") =
      p.parts := by
    by_cases hempty : p.parts = []
    · rw [hempty]
      decide
    · rw [namesOf_join hp.names hempty, filter_cons_of_neg (by simp), hkeep]
  rw [Path.ofString, hsplit, hread, htext]
  obtain ⟨absolute, parts⟩ := p
  simpa using hp.absolute.symm

lemma Canonical.eq_of_toString_eq {q : Path} (hp : p.Canonical) (hq : q.Canonical)
    (h : p.toString = q.toString) : p = q := by
  rw [← hp.ofString_toString, h, hq.ofString_toString]

lemma Canonical.parent (hp : p.Canonical) : p.parent.Canonical where
  absolute := hp.absolute
  names n hn := hp.names n ((dropLast_sublist _).subset hn)

lemma Canonical.child (hp : p.Canonical) (hn : IsName n) : (p / n).Canonical := by
  rw [child_eq hn]
  refine ⟨hp.absolute, fun m hm => ?_⟩
  rcases mem_append.mp hm with hold | hnew
  · exact hp.names m hold
  · rwa [mem_singleton.mp hnew]

lemma forall_of_mem_splitWhere {p : Char → Bool} {s piece : Chars} (h : piece ∈ splitWhere p s) :
    ∀ c ∈ piece, p c = false := by
  induction s generalizing piece with
  | nil =>
    obtain rfl := mem_singleton.mp h
    simp
  | cons d s ih =>
    rw [splitWhere] at h
    split_ifs at h with hd
    · rcases mem_cons.mp h with rfl | h
      · simp
      · exact ih h
    · cases hs : splitWhere p s with
      | nil =>
        rw [hs] at h
        obtain rfl := mem_singleton.mp h
        simpa using hd
      | cons first rest =>
        rw [hs] at h
        rcases mem_cons.mp h with rfl | h
        · intro c hc
          rcases mem_cons.mp hc with rfl | hc
          · simpa using hd
          · exact ih (by simp [hs]) c hc
        · exact ih (by simp [hs, h])

lemma isName_of_mem_ofString {s : String} (h : n ∈ (Path.ofString s).parts) :
    n = ".." ∨ IsName n := by
  obtain ⟨hmem, hkeep⟩ := mem_filter.mp h
  obtain ⟨piece, hpiece, rfl⟩ := mem_map.mp hmem
  have hslash := forall_of_mem_splitWhere hpiece
  by_cases hdots : .ofList piece = ".."
  · exact Or.inl hdots
  · simp only [Bool.and_eq_true, bne_iff_ne, ne_eq] at hkeep
    refine Or.inr ⟨hkeep.1, hkeep.2, hdots, ?_⟩
    intro hmem
    rw [String.toList_ofList] at hmem
    simpa using hslash '/' hmem

lemma isName_of_mem_resolveParts {above ns : List String} (habove : ∀ n ∈ above, IsName n)
    (hns : ∀ n ∈ ns, n = ".." ∨ IsName n) : ∀ n ∈ resolveParts above ns, IsName n := by
  induction ns generalizing above with
  | nil => simpa [resolveParts] using habove
  | cons m ns ih =>
    have hrest : ∀ n ∈ ns, n = ".." ∨ IsName n := fun n hn => hns n (by simp [hn])
    rw [resolveParts]
    split_ifs with hm
    · exact ih (fun n hn => habove n (mem_of_mem_drop hn)) hrest
    · have hname : IsName m := (hns m (by simp)).resolve_left (by simpa using hm)
      refine ih (fun n hn => ?_) hrest
      rcases mem_cons.mp hn with rfl | hn
      · exact hname
      · exact habove n hn

lemma Canonical.resolve (hp : p.Canonical) (cwd : Path) {s : String}
    (hs : (Path.ofString s).absolute = false) : (Path.resolve cwd (p / s)).Canonical := by
  have habsolute : (p / s).absolute = true := by
    show (p.append (Path.ofString s)).absolute = true
    simp [append, hs, hp.absolute]
  have hparts : (p / s).parts = p.parts ++ (Path.ofString s).parts := by
    show (p.append (Path.ofString s)).parts = _
    simp [append, hs]
  refine ⟨rfl, ?_⟩
  rw [Path.resolve, append, if_pos habsolute, hparts]
  refine isName_of_mem_resolveParts (by simp) fun n hn => ?_
  rcases mem_append.mp hn with hold | hnew
  · exact Or.inr (hp.names n hold)
  · exact isName_of_mem_ofString hnew

end Path

end Workbench
