import Workbench.Branch.Lifecycle
import Workbench.Branch.Name
import Workbench.Branch.Template
import Workbench.Proofs.Json.ReadBack
import Workbench.Proofs.Pattern.Matching
import Workbench.Proofs.Text.Split
import Workbench.Proofs.World.Exec

/-!
# Names of branches

A name is made of the prefix of its type and a tidy rest: small letters, digits and hyphens, with no
hyphen at an end.  Names that are made pass the check.

A branch is started with a type and finished by the type that its name is read as: the first one
whose prefix the name begins with.  The two agree if no earlier prefix fits the name.
-/

open List hiding all

open Except

namespace Workbench.Branch

open Text Value

variable {description name : String} {issue : Int}

/-! ### Tidy texts -/

/-- Small letters, digits and hyphens, with no hyphen at an end. -/
structure Tidy (s : Chars) : Prop where
  chars : ∀ x ∈ s, isNameChar x = true
  first : '-' ∉ s.head?
  last : '-' ∉ s.getLast?

instance (s : Chars) : Decidable (Tidy s) :=
  decidable_of_iff (s.all isNameChar = true ∧ '-' ∉ s.head? ∧ '-' ∉ s.getLast?)
    ⟨fun ⟨hchars, hfirst, hlast⟩ => ⟨all_eq_true.mp hchars, hfirst, hlast⟩,
      fun h => ⟨all_eq_true.mpr h.chars, h.first, h.last⟩⟩

variable {s r : Chars} {x : Char}

lemma isNameChar_iff :
    isNameChar x = true ↔ 97 ≤ x.toNat ∧ x.toNat ≤ 122 ∨ 48 ≤ x.toNat ∧ x.toNat ≤ 57 ∨ x = '-' := by
  simp [isNameChar, Char.le_def, UInt32.le_iff_toNat_le, or_assoc]

lemma lowerFrom_of_ascii (h : ∀ x ∈ s, x.toNat < 128 ∧ ¬ (65 ≤ x.toNat ∧ x.toNat ≤ 90))
    (before : Chars) :
    lowerFrom before s = s := by
  induction s generalizing before with
  | nil => rfl
  | cons x s ih =>
    obtain ⟨hsmall, hs⟩ := forall_mem_cons.mp h
    have hone : lowerOne x = x := by
      simp only [lowerOne, if_pos hsmall.1, Char.le_def, UInt32.le_iff_toNat_le, Bool.and_eq_true,
        decide_eq_true_eq]
      exact if_neg hsmall.2
    rw [lowerFrom, if_pos hsmall.1, hone, ih hs, singleton_append]

lemma lowerFrom_of_small (h : ∀ x ∈ s, isNameChar x = true ∨ x = '/') (before : Chars) :
    lowerFrom before s = s := by
  refine lowerFrom_of_ascii (fun x hx => ?_) before
  rcases h x hx with hx | rfl
  · rcases isNameChar_iff.mp hx with h | h | rfl
    · omega
    · omega
    · decide
  · decide

lemma tidy_cleaned (description : String) : Tidy (cleaned description) where
  chars x hx := (mem_filter.mp (mem_of_mem_trimWhile hx)).2
  first h := by simpa using head?_trimWhile h
  last h := by simpa using getLast?_dropEndWhile h

lemma map_hyphen_eq_self (h : ∀ x ∈ s, x ≠ ' ' ∧ x ≠ '_') :
    s.map (fun c => if c == ' ' || c == '_' then '-' else c) = s := by
  refine (map_congr_left fun x hx => ?_).trans (map_id s)
  obtain ⟨hblank, hline⟩ := h x hx
  have hspecial : ¬ (x == ' ' || x == '_') = true := by simp [hblank, hline]
  rw [if_neg hspecial]
  rfl

lemma cleaned_of_tidy (h : Tidy s) : cleaned (.ofList s) = s := by
  have hlower : lower (.ofList s) = .ofList s := by
    rw [lower, String.toList_ofList, lowerFrom_of_small fun x hx => .inl (h.chars x hx)]
  have hhyphened : s.map (fun c => if c == ' ' || c == '_' then '-' else c) = s := by
    refine map_hyphen_eq_self fun x hx => ⟨?_, ?_⟩
    · rintro rfl
      exact absurd (h.chars _ hx) (by decide)
    · rintro rfl
      exact absurd (h.chars _ hx) (by decide)
  rw [cleaned, hlower, String.toList_ofList, hhyphened, filter_eq_self.mpr h.chars]
  refine trimWhile_eq_self (fun x hx => ?_) fun x hx => ?_
  · exact beq_eq_false_iff_ne.mpr fun hyphen => h.first (hyphen ▸ hx)
  · exact beq_eq_false_iff_ne.mpr fun hyphen => h.last (hyphen ▸ hx)

lemma toNat_of_mem_toDigits {n : Nat} (h : x ∈ Nat.toDigits 10 n) : 48 ≤ x.toNat ∧ x.toNat ≤ 57 :=
  isAsciiDigit_iff.mp ((Json.numeral_toDigits n).digits x h)

lemma isNameChar_of_mem_toDigits {n : Nat} (h : x ∈ Nat.toDigits 10 n) : isNameChar x = true :=
  isNameChar_iff.mpr (.inr (.inl (toNat_of_mem_toDigits h)))

lemma isNameChar_toString {n : Int} (h : x ∈ (toString n).toList) : isNameChar x = true := by
  rw [Json.toList_int] at h
  split_ifs at h
  · rcases mem_cons.mp h with rfl | h
    · rfl
    · exact isNameChar_of_mem_toDigits h
  · exact isNameChar_of_mem_toDigits h

/-- The issue as it stands in a name. -/
def issueMark (issue : Int) : Chars :=
  if issue == 0 then [] else ("issue-" ++ toString issue ++ "-").toList

lemma tidy_issueMark (h : Tidy s) (hne : s ≠ []) (issue : Int) : Tidy (issueMark issue ++ s) where
  chars x hx := by
    rcases mem_append.mp hx with hx | hx
    · rw [issueMark] at hx
      split_ifs at hx
      · simp at hx
      · simp only [String.toList_append, mem_append] at hx
        rcases hx with (hx | hx) | hx
        · exact all_eq_true.mp (by decide : "issue-".toList.all isNameChar = true) x hx
        · exact isNameChar_toString hx
        · exact all_eq_true.mp (by decide : "-".toList.all isNameChar = true) x hx
    · exact h.chars x hx
  first hx := by
    rw [issueMark] at hx
    split_ifs at hx
    · exact h.first hx
    · simp at hx
  last hx := by
    rw [getLast?_append_of_ne_nil _ hne] at hx
    exact h.last hx

/-! ### Making -/

lemma exists_cutTo {lead : Chars} {n : Int} (h : Tidy s) (hne : s ≠ [])
    (hroom : (lead.length : Int) < n) :
    ∃ r, cutTo n (lead ++ s) = lead ++ r ∧ Tidy r ∧ r ≠ [] ∧ ((lead ++ r).length : Int) ≤ n := by
  obtain ⟨x, s, rfl⟩ := exists_cons_of_ne_nil hne
  obtain ⟨k, hk⟩ : ∃ k, n.toNat = lead.length + (k + 1) := ⟨n.toNat - lead.length - 1, by omega⟩
  have hx : (x == '-') = false := beq_eq_false_iff_ne.mpr fun hyphen => h.first (by simp [hyphen])
  have hdrop : ∀ u v, dropEndWhile (· == '-') (u ++ x :: v) = u ++ x :: dropEndWhile (· == '-') v :=
    dropEndWhile_append_cons (q := (· == '-')) hx
  have htake : (lead ++ x :: s).take n.toNat = lead ++ x :: s.take k := by
    rw [hk, take_length_add_append, take_succ_cons]
  have hcut : cutTo n (lead ++ x :: s) = lead ++ x :: dropEndWhile (· == '-') (s.take k) := by
    rw [cutTo, if_neg (by omega), htake, hdrop]
  have hsub : ∀ y ∈ dropEndWhile (· == '-') (s.take k), y ∈ s :=
    fun y hy => mem_of_mem_take (mem_of_mem_dropEndWhile hy)
  refine ⟨_, hcut, ⟨fun y hy => ?_, fun hyphen => ?_, fun hyphen => ?_⟩, by simp, ?_⟩
  · rcases mem_cons.mp hy with rfl | hy
    · exact h.chars _ (by simp)
    · exact h.chars y (mem_cons_of_mem _ (hsub y hy))
  · exact h.first (by simpa using hyphen)
  · rw [← nil_append (x :: _), ← hdrop] at hyphen
    simpa using getLast?_dropEndWhile hyphen
  · have hlength := (dropEndWhile_isPrefix (q := (· == '-')) (s := s.take k)).length_le
    rw [length_take] at hlength
    simp only [length_append, length_cons]
    omega

/-- The settings that a name of a type is made by: the prefix of the type, and a greatest length
that leaves room for more than the prefix. -/
structure Setting (c : Config) (type lead : String) (limit : Value) : Prop where
  lead_eq : ∃ prefixes, c.prefixes = .ok prefixes ∧
    prefixes.fieldOr type (.str (type ++ "/")) = .ok lead
  limit_eq : c.maxLength = .ok limit
  room : before lead.length limit = .ok true

lemma before_of_whole {a b : Value} {m n : Int} (ha : a.whole? = some m) (hb : b.whole? = some n) :
    before a b = .ok (decide (m < n)) := by
  cases a <;> simp [whole?] at ha <;> cases b <;> simp [whole?] at hb <;>
    simp [before, number, whole?, ha, hb]

variable {c : Config} {type lead : String} {limit : Value}

lemma makeName_eq (h : Setting c type lead limit) (description : String) (issue : Int)
    (hne : cleaned description ≠ []) :
    makeName type description issue c =
      (do
        if ← before limit
          (.int (lead.toList ++ (issueMark issue ++ cleaned description)).length) then
          match limit.whole? with
          | some n =>
            return .ofList (cutTo n (lead.toList ++ (issueMark issue ++ cleaned description)))
          | none =>
            throw (.kind "slice indices must be integers or None or have an __index__ method")
        return .ofList (lead.toList ++ (issueMark issue ++ cleaned description))) := by
  obtain ⟨prefixes, hprefixes, hlead⟩ := h.lead_eq
  have hempty : (cleaned description).isEmpty = false := by simpa using hne
  simp only [makeName, hprefixes, hlead, h.limit_eq, hempty, longName, bind, Except.bind,
    issueMark, append_assoc, Bool.false_eq_true, if_false]
  rfl

lemma cleaned_ne_nil_of_makeName (h : Setting c type lead limit)
    (hname : makeName type description issue c = .ok name) : cleaned description ≠ [] := by
  intro hempty
  obtain ⟨prefixes, hprefixes, hlead⟩ := h.lead_eq
  simp [makeName, hprefixes, hlead, hempty, bind, Except.bind, throw, throwThe,
    MonadExceptOf.throw] at hname

/-- What stands at the front of a name is kept if there is room for more than it, and a tidy rest
stays of what stands behind it. -/
lemma exists_of_makeName_front (h : Setting c type lead limit)
    (hname : makeName type description issue c = .ok name) {front : Chars} (hs : Tidy s)
    (hne : s ≠ []) (hfront : lead.toList ++ (issueMark issue ++ cleaned description) = front ++ s)
    (hroom : ∀ n, limit.whole? = some n → (front.length : Int) < n) :
    ∃ r, Tidy r ∧ r ≠ [] ∧ name.toList = front ++ r ∧ before limit name.length = .ok false := by
  rw [makeName_eq h description issue (cleaned_ne_nil_of_makeName h hname), hfront] at hname
  cases hbefore : before limit (.int (front ++ s).length) with
  | error e =>
    rw [hbefore] at hname
    cases hname
  | ok long =>
    rw [hbefore] at hname
    cases long with
    | false =>
      obtain rfl : .ofList (front ++ s) = name := ok.inj hname
      exact ⟨s, hs, hne, String.toList_ofList, by rwa [String.length_ofList]⟩
    | true =>
      cases hwhole : limit.whole? with
      | none => simp [hwhole, bind, Except.bind] at hname
      | some n =>
        obtain ⟨r, hcut, hr, hrne, hlength⟩ := exists_cutTo hs hne (hroom n hwhole)
        rw [hwhole] at hname
        obtain rfl : .ofList (cutTo n (front ++ s)) = name := ok.inj hname
        refine ⟨r, hr, hrne, by rw [String.toList_ofList, hcut], ?_⟩
        rw [before_of_whole hwhole rfl, String.length_ofList, hcut]
        simpa using hlength

/-- A name that is made is the prefix with tidy words behind it, and is not too long. -/
theorem exists_of_makeName (h : Setting c type lead limit)
    (hname : makeName type description issue c = .ok name) :
    ∃ r, Tidy r ∧ r ≠ [] ∧ name.toList = lead.toList ++ r ∧
      before limit name.length = .ok false := by
  have hne := cleaned_ne_nil_of_makeName h hname
  have htidy := tidy_issueMark (tidy_cleaned description) hne issue
  refine exists_of_makeName_front h hname htidy (by simp [hne]) rfl fun n hwhole => ?_
  have hroom := h.room
  rw [before_of_whole rfl hwhole, ok.injEq, decide_eq_true_eq] at hroom
  rwa [String.length_toList]

/-- Tidy words that fit the limit are kept as they are. -/
theorem makeName_of_tidy (h : Setting c type lead limit) (hr : Tidy r) (hne : r ≠ [])
    (hlimit : before limit (.int (lead ++ .ofList r).length) = .ok false) :
    makeName type (.ofList r) 0 c = .ok (lead ++ .ofList r) := by
  have hclean := cleaned_of_tidy hr
  have hmark : issueMark 0 ++ cleaned (.ofList r) = r := by rw [hclean]; rfl
  have hjoin : .ofList (lead.toList ++ r) = lead ++ .ofList r := by simp
  rw [← hjoin, String.length_ofList] at hlimit
  rw [makeName_eq h _ 0 (by rwa [hclean]), hmark, hlimit]
  exact congrArg ok hjoin

/-! ### Checking -/

/-- The characters that are allowed in names. -/
def nameSet : Pattern.CharSet :=
  { items := [.range 97 122, .range 48 57, .range 45 45, .range 47 47] }

lemma parse_nameSet : Pattern.parse {} "^[a-z0-9-/]+$" = .ok (Pattern.wholeOf nameSet) := by
  decide +kernel

variable {name : String}

lemma fitsClass_of_forall (hne : name ≠ "") (h : ∀ x ∈ name.toList, isNameChar x = true ∨ x = '/') :
    fitsClass "a-z0-9-" name = .ok true := by
  have haccepts : ∀ x ∈ name.toList, nameSet.accepts x = true := by
    intro x hx
    rcases h x hx with hx | rfl
    · rcases isNameChar_iff.mp hx with hx | hx | rfl
      · simp [nameSet, Pattern.CharSet.accepts, Pattern.SetItem.accepts, hx]
      · simp [nameSet, Pattern.CharSet.accepts, Pattern.SetItem.accepts, hx]
      · decide
    · decide
  have htext : "^[" ++ "a-z0-9-" ++ "/]+$" = "^[a-z0-9-/]+$" := by decide
  rw [fitsClass, htext, parse_nameSet]
  exact congrArg ok (Pattern.starts_wholeOf hne haccepts)

lemma letterErrors_of_forall (hchars : c.allowedChars = .ok "a-z0-9-")
    (hlimit : c.maxLength = .ok limit) (hshort : before limit name.length = .ok false)
    (hne : name ≠ "")
    (h : ∀ x ∈ name.toList, isNameChar x = true ∨ x = '/') : letterErrors name c = .ok [] := by
  have hlower : lower name = name := by
    rw [lower, lowerFrom_of_small h, String.ofList_toList]
  have hline : contains name "_" = false := by
    rw [← Bool.not_eq_true, contains_iff]
    intro hinfix
    have hmem : '_' ∈ name.toList := hinfix.subset (by decide)
    exact absurd (h _ hmem) (by decide)
  have hdisplay : (str "a-z0-9-").display = "a-z0-9-" := rfl
  rw [Config.maxLength] at hlimit
  simp only [letterErrors, hlimit, hshort, hchars, hdisplay, fitsClass_of_forall hne h, hlower,
    hline, bind, Except.bind, beq_self_eq_true, if_true, Bool.false_eq_true, if_false, append_nil]
  rfl

/-- The prefixes as a configuration holds them. -/
def prefixMap (ps : List (String × String)) : Value := .object (ps.map fun p => (p.1, .str p.2))

variable {ps : List (String × String)}

lemma typeAmong?_prefixMap (branch : String) (ps : List (String × String)) :
    typeAmong? branch (keyed (ps.map fun p => (p.1, .str p.2))) =
      .ok ((ps.find? fun p => startsWith branch p.2).map Prod.fst) := by
  induction ps with
  | nil => rfl
  | cons p ps ih =>
    rw [map_cons, keyed_cons, typeAmong?, find?_cons]
    cases hstart : startsWith branch p.2 with
    | true => simp [startsWithPrefix, hstart, bind, Except.bind, pure, Except.pure, display]
    | false => simpa [startsWithPrefix, hstart, bind, Except.bind] using ih

lemma fieldOr_prefixMap (type : String) (ps : List (String × String)) (default : Value) :
    (prefixMap ps).fieldOr type default = .ok (((ps.lookup type).map str).getD default) := by
  rw [prefixMap, fieldOr_object]
  congr 2
  induction ps with
  | nil => rfl
  | cons p ps ih =>
    rw [map_cons, lookup_cons, lookup_cons]
    cases type == p.1 with
    | true => rfl
    | false => exact ih

lemma prefixErrors_of_known (hprefixes : c.prefixes = .ok (prefixMap ps))
    {p : String × String} (hp : p ∈ ps) (hknown : p.2.toList <+: name.toList) :
    prefixErrors name c = .ok [] := by
  have hfound : ((ps.find? fun p => startsWith name p.2).map Prod.fst).isSome = true := by
    rw [Option.isSome_map, find?_isSome]
    exact ⟨p, hp, startsWith_iff.mpr hknown⟩
  have hpairs : (prefixMap ps).pairs = .ok (keyed (ps.map fun p => (p.1, .str p.2))) := rfl
  simp only [prefixErrors, hprefixes, hpairs, typeAmong?_prefixMap, hfound, bind,
    Except.bind, if_true]
  rfl

/-- A prefix of tidy parts, each ended by a slash, with no slash right behind another. -/
structure Segmented (lead : String) : Prop where
  parts : ∃ parts : List Chars, lead.toList = parts.flatMap (· ++ ['/']) ∧ ∀ part ∈ parts, Tidy part
  single : ¬ ['/', '/'] <:+: lead.toList

lemma Tidy.slash_notMem (h : Tidy s) : '/' ∉ s := fun hmem => absurd (h.chars _ hmem) (by decide)

lemma Segmented.chars (h : Segmented lead) (hx : x ∈ lead.toList) :
    isNameChar x = true ∨ x = '/' := by
  obtain ⟨parts, hlead, hparts⟩ := h.parts
  rw [hlead, mem_flatMap] at hx
  obtain ⟨part, hpart, hx⟩ := hx
  rcases mem_append.mp hx with hx | hx
  · exact .inl ((hparts part hpart).chars x hx)
  · exact .inr (mem_singleton.mp hx)

lemma pieces_of_parts {parts : List Chars} (hparts : ∀ part ∈ parts, Tidy part) (hr : Tidy r) :
    pieces ['/'] (parts.flatMap (· ++ ['/']) ++ r) = parts ++ [r] := by
  induction parts with
  | nil => exact pieces_of_notWithin (notWithin_of_notMem hr.slash_notMem _ _)
  | cons part parts ih =>
    obtain ⟨hpart, hparts⟩ := forall_mem_cons.mp hparts
    rw [flatMap_cons, append_assoc, append_assoc,
      pieces_cut (by simp) (notWithin_of_notMem hpart.slash_notMem _ _), ih hparts, cons_append]

lemma hyphenWarnings_of_segmented (hlead : Segmented lead) (hr : Tidy r)
    (hname : name.toList = lead.toList ++ r) :
    hyphenWarnings name = [] := by
  obtain ⟨parts, hparts, htidy⟩ := hlead.parts
  have hpieces : split name "/" = (parts ++ [r]).map .ofList := by
    rw [split_eq, hname, hparts]
    exact congrArg _ (pieces_of_parts htidy hr)
  have hall : ∀ part ∈ parts ++ [r], Tidy part := by simpa [or_imp, forall_and] using ⟨htidy, hr⟩
  rw [hyphenWarnings, hpieces, map_eq_nil_iff, filter_eq_nil_iff]
  rintro part hpart hhyphen
  obtain ⟨chars, hchars, rfl⟩ := mem_map.mp hpart
  rcases Bool.or_eq_true_iff.mp hhyphen with hstart | hend
  · obtain ⟨t, ht⟩ := startsWith_iff.mp hstart
    obtain rfl : '-' :: t = chars := by simpa using ht
    exact (hall _ hchars).first (by simp)
  · obtain ⟨t, ht⟩ := endsWith_iff.mp hend
    obtain rfl : t ++ ['-'] = chars := by simpa using ht
    exact (hall _ hchars).last (by simp)

lemma not_contains_slashes (hlead : Segmented lead) (hr : Tidy r)
    (hname : name.toList = lead.toList ++ r) :
    contains name "//" = false := by
  rw [← Bool.not_eq_true, contains_iff, hname]
  rintro ⟨u, v, huv⟩
  have huv : (u ++ ['/']) ++ '/' :: v = lead.toList ++ r := by simpa using huv
  rcases append_eq_append_iff.mp huv with ⟨t, ht, hv⟩ | ⟨t, ht, hv⟩
  · cases t with
    | nil => exact hr.slash_notMem (by rw [← nil_append r, ← hv]; simp)
    | cons y t =>
      obtain ⟨rfl, -⟩ := cons.inj hv
      exact hlead.single ⟨u, t, by simp [ht]⟩
  · exact hr.slash_notMem (by simp [hv])

lemma pathOr_pair (v d : Value) (k l : String) :
    v.pathOr [k, l] d = v.fieldOr k (.map []) >>= (·.fieldOr l d) := rfl

lemma exists_of_pathOr {v d a : Value} {k l : String} (h : v.pathOr [k, l] d = .ok a) :
    ∃ es, v.fieldOr k (.map []) = .ok (.map es) := by
  rw [pathOr_pair] at h
  cases hfield : v.fieldOr k (.map []) with
  | error e => simp [hfield, bind, Except.bind] at h
  | ok inner =>
    rw [hfield] at h
    cases inner with
    | map es => exact ⟨es, rfl⟩
    | _ => cases h

/-- What is said of a hyphen at the end of a part. -/
def hyphenWarning (part : String) : String :=
  "Branch segment '" ++ part ++ "' has leading/trailing hyphen"

lemma take_hyphenWarning (part : String) :
    (hyphenWarning part).toList.take 8 = "Branch s".toList := by
  have hchars : (hyphenWarning part).toList =
      "Branch segment '".toList ++ (part ++ "' has leading/trailing hyphen").toList :=
    (congrArg String.toList String.append_assoc).trans String.toList_append
  refine (congrArg (take 8) hchars).trans ((take_append_of_le_length ?_).trans ?_)
  · decide
  · decide

/-- A known prefix with tidy words behind it passes the check of names. -/
theorem checkName_of_tidy (hchars : c.allowedChars = .ok "a-z0-9-")
    (hprefixes : c.prefixes = .ok (prefixMap ps)) (hlimit : c.maxLength = .ok limit)
    (hshort : before limit name.length = .ok false)
    (hlead : Segmented lead) {known : String} (hknown : (known, lead) ∈ ps) (hr : Tidy r)
    (hne : r ≠ []) (hname : name.toList = lead.toList ++ r) :
    ∃ report, checkName name c = .ok report ∧ report.errors = [] ∧ ∀ part,
      hyphenWarning part ∉ report.warnings := by
  obtain ⟨naming, hnaming⟩ := exists_of_pathOr hchars
  obtain ⟨branches, hbranches⟩ := exists_of_pathOr hprefixes
  have hmain : ∃ main, c.main = .ok main := ⟨_, by rw [Config.main, pathOr_pair, hbranches]; rfl⟩
  have hdevelop : ∃ develop, c.develop = .ok develop :=
    ⟨_, by rw [Config.develop, pathOr_pair, hbranches]; rfl⟩
  obtain ⟨main, hmain⟩ := hmain
  obtain ⟨develop, hdevelop⟩ := hdevelop
  have hletters : letterErrors name c = .ok [] := by
    refine letterErrors_of_forall hchars hlimit hshort (fun hempty => ?_) fun x hx => ?_
    · simp [hempty, hne] at hname
    · rw [hname] at hx
      exact (mem_append.mp hx).elim hlead.chars fun hx => .inl (hr.chars x hx)
  have hleads : prefixErrors name c = .ok [] :=
    prefixErrors_of_known hprefixes hknown ⟨r, hname.symm⟩
  have hissue : ∃ needed, (map naming).fieldOr "requireIssue" false = .ok needed := ⟨_, rfl⟩
  obtain ⟨needed, hissue⟩ := hissue
  by_cases hsystem : (main.same name || develop.same name) = true
  · refine ⟨{}, ?_, rfl, by simp⟩
    simp only [checkName, hnaming, hmain, hdevelop, hsystem, bind, Except.bind, if_true]
    rfl
  · refine ⟨⟨[], (if contains name "--" then ["Branch name contains double hyphens"] else [])
      ++ (if needed.truthy && !mentionsIssue name then
          ["Branch name should include issue reference (e.g., issue-42)"] else [])⟩, ?_, rfl,
          fun part hpart => ?_⟩
    · simp only [checkName, hnaming, hmain, hdevelop, hsystem, hletters, hleads, hissue,
        not_contains_slashes hlead hr hname, hyphenWarnings_of_segmented hlead hr hname, bind,
        Except.bind, Bool.false_eq_true, if_false, append_nil]
      rfl
    · have hother : hyphenWarning part = "Branch name contains double hyphens" ∨
          hyphenWarning part = "Branch name should include issue reference (e.g., issue-42)" := by
        rcases mem_append.mp hpart with hpart | hpart
        · split_ifs at hpart
          · exact .inl (mem_singleton.mp hpart)
          · simp at hpart
        · split_ifs at hpart
          · exact .inr (mem_singleton.mp hpart)
          · simp at hpart
      rcases hother with h | h
      · exact absurd (h ▸ take_hyphenWarning part) (by decide)
      · exact absurd (h ▸ take_hyphenWarning part) (by decide)

/-- Names that are made pass the check.  A type has an entry of its own among the prefixes, which
are texts, and its prefix is made of tidy parts; then every name of the type is not too long, there
is no error about it and no warning about a hyphen at an end, and it is made again from what stands
behind its prefix. -/
theorem makeName_passes_checkName (hchars : c.allowedChars = .ok (.str "a-z0-9-"))
    (hprefixes : c.prefixes = .ok (prefixMap ps)) (hown : ps.lookup type = some lead)
    (hlead : Segmented lead) (hlimit : c.maxLength = .ok limit)
    (hroom : before (.int lead.length) limit = .ok true)
    {description name : String} {issue : Int}
    (hname : makeName type description issue c = .ok name) :
    before limit (.int name.length) = .ok false ∧
    (∃ report, checkName name c = .ok report ∧ report.errors = [] ∧ ∀ part,
      hyphenWarning part ∉ report.warnings) ∧
    ∃ rest, name = lead ++ rest ∧ makeName type rest 0 c = .ok name := by
  have hentry : (prefixMap ps).fieldOr type (.str (type ++ "/")) = .ok (.str lead) := by
    rw [fieldOr_prefixMap, hown]
    rfl
  have hsetting : Setting c type lead limit := ⟨⟨_, hprefixes, hentry⟩, hlimit, hroom⟩
  obtain ⟨r, hr, hne, hsplit, hshort⟩ := exists_of_makeName hsetting hname
  obtain rfl : lead ++ String.ofList r = name := String.toList_injective (by simp [hsplit])
  refine ⟨hshort, ?_, _, rfl, makeName_of_tidy hsetting hr hne hshort⟩
  have hmem : (type, lead) ∈ ps := by
    obtain ⟨before, after, rfl, -⟩ := List.lookup_eq_some_iff.mp hown
    simp
  exact checkName_of_tidy hchars hprefixes hlimit hshort hlead hmem hr hne hsplit

/-- A description that is cut behind a hyphen passes as well. -/
theorem makeName_passes_checkName_cut :
    makeName "feature" "aaaaaaaaaa bbbbbbbbbb cccccccccc dddddddddd ee İx" 12 builtIn =
      .ok "feature/issue-12-aaaaaaaaaa-bbbbbbbbbb-cccccccccc-dddddddddd-ee" ∧
    ∃ report, checkName "feature/issue-12-aaaaaaaaaa-bbbbbbbbbb-cccccccccc-dddddddddd-ee" builtIn =
      .ok report ∧
      report.errors = [] ∧ ∀ part, hyphenWarning part ∉ report.warnings := by
  have hname : makeName "feature" "aaaaaaaaaa bbbbbbbbbb cccccccccc dddddddddd ee İx" 12 builtIn =
      .ok "feature/issue-12-aaaaaaaaaa-bbbbbbbbbb-cccccccccc-dddddddddd-ee" := by rfl
  have hprefixes : builtIn.prefixes = .ok (prefixMap
    (["feature", "bugfix", "hotfix", "release", "docs", "refactor"].map fun t => (t, t ++ "/"))) :=
      rfl
  have hlead : Segmented "feature/" := ⟨⟨["feature".toList], by decide, by decide⟩, by decide⟩
  exact ⟨hname, (makeName_passes_checkName rfl hprefixes rfl hlead rfl rfl hname).2.1⟩

/-- A type without an entry of its own has a prefix that the check does not know. -/
theorem promote_fails_checkName :
    Template.gitlabFlow.allowedChars = .ok (.str "a-z0-9-") ∧ Segmented "promote/" ∧
    makeName "promote" "x" 0 Template.gitlabFlow = .ok "promote/x" ∧
    (checkName "promote/x" Template.gitlabFlow).toOption.map NameReport.errors =
      some ["Branch name must start with a known prefix: feature/, fix/, hotfix/"] :=
  ⟨rfl, ⟨⟨["promote".toList], by decide, by decide⟩, by decide⟩, rfl, by decide +kernel⟩

open Workbench.Branch.Template

/-! ### Reading the type -/

/-- The type that all names with a prefix are read as: none if no entry fits.  If an entry fits only
some of the names, there is no answer. -/
def typeOfLead? (lead : String) : List (String × String) → Option (Option String)
  | [] => some none
  | (type, p) :: ps =>
    if p.toList <+: lead.toList then some (some type)
    else if lead.toList <+: p.toList then none
    else typeOfLead? lead ps

lemma find?_of_typeOfLead? {found : Option String} (h : typeOfLead? lead ps = some found)
    (hname : lead.toList <+: name.toList) :
    (ps.find? fun p => startsWith name p.2).map Prod.fst = found := by
  induction ps with
  | nil => exact Option.some.inj h
  | cons p ps ih =>
    obtain ⟨type, p⟩ := p
    rw [typeOfLead?] at h
    split_ifs at h with hfront hbehind
    · have hstart : startsWith name p = true := startsWith_iff.mpr (hfront.trans hname)
      rw [List.find?_cons, hstart]
      exact Option.some.inj h
    · have hstart : startsWith name p = false := by
        rw [← Bool.not_eq_true, startsWith_iff]
        intro hp
        exact List.prefix_or_prefix_of_prefix hp hname |>.elim hfront hbehind
      rw [List.find?_cons, hstart]
      exact ih h

lemma typeOf?_prefixMap (hprefixes : c.prefixes = .ok (prefixMap ps)) (name : String) :
    typeOf? name c = .ok ((ps.find? fun p => startsWith name p.2).map Prod.fst) := by
  rw [typeOf?, hprefixes]
  exact typeAmong?_prefixMap name ps

lemma typeOf?_of_typeOfLead? {found : Option String} (hprefixes : c.prefixes = .ok (prefixMap ps))
    (h : typeOfLead? lead ps = some found) (hname : lead.toList <+: name.toList) :
    typeOf? name c = .ok found := by
  rw [typeOf?_prefixMap hprefixes, find?_of_typeOfLead? h hname]

lemma finishBranch_eq (h : typeOf? name c = .ok (some type)) (hne : type ≠ "") :
    finishBranch name c = (do let flow ← flowOf type c; finishAlong type name flow) := by
  have hpure : (liftM (.ok (some type) : Result (Option String)) : Tool (Option String)) =
      pure (some type) := rfl
  rw [finishBranch, h, hpure, pure_bind]
  split
  · contradiction
  · rename_i hempty
    exact absurd (Option.some.inj hempty) hne
  · rename_i found hfound
    rw [Option.some.inj hfound]

/-! ### The configurations that come with the tools -/

/-- The configurations that come with the tools: the one that is built in, and those to start
from. -/
def provided : List (String × Config) := ("built-in", builtIn) :: all

/-- The types of the provided configurations whose names are read as another type or as none. -/
def misread : List ((String × String) × Option String) :=
  [(("gitlab-flow", "promote"), none), (("trunk-based", "hotfix"), some "feature")]

/-- The type that a name of a type is read as. -/
def readAs (strategy type : String) : Option String :=
  (misread.lookup (strategy, type)).getD (some type)

lemma ne_empty_of_readAs {strategy found : String} (h : readAs strategy type = some found)
    (hne : type ≠ "") :
    found ≠ "" := by
  have hmisread : ∀ e ∈ misread, e.2 ≠ some "" := by decide
  rw [readAs] at h
  cases hlookup : misread.lookup (strategy, type) with
  | none =>
    rw [hlookup] at h
    exact Option.some.inj h ▸ hne
  | some read =>
    rw [hlookup, Option.getD_some] at h
    obtain ⟨before, after, heq, -⟩ := List.lookup_eq_some_iff.mp hlookup
    rintro rfl
    exact hmisread ((strategy, type), read) (by simp [heq]) h

/-- What a configuration that comes with the tools settles. -/
structure Provided (strategy : String) (c : Config) (ps : List (String × String))
    (fs : List (String × Value)) : Prop where
  prefixes : c.prefixes = .ok (prefixMap ps)
  flows : c.flows = .ok (.object fs)
  limit : c.maxLength = .ok (.int 64)
  types : ∀ type ∈ fs.map Prod.fst, type ≠ "" ∧ ((ps.lookup type).getD (type ++ "/")).length < 64 ∧
    typeOfLead? ((ps.lookup type).getD (type ++ "/")) ps = some (readAs strategy type)

lemma exists_provided : ∀ e ∈ provided, ∃ ps fs, Provided e.1 e.2 ps fs := by
  have hbuiltIn : ∃ ps fs, Provided "built-in" builtIn ps fs :=
    ⟨["feature", "bugfix", "hotfix", "release", "docs", "refactor"].map fun t => (t, t ++ "/"), _,
      rfl, rfl, rfl, by decide⟩
  have hgitflow : ∃ ps fs, Provided "gitflow" gitflow ps fs := ⟨_, _, rfl, rfl, rfl, by decide⟩
  have hgithub : ∃ ps fs, Provided "github-flow" githubFlow ps fs :=
    ⟨_, _, rfl, rfl, rfl, by decide⟩
  have hgitlab : ∃ ps fs, Provided "gitlab-flow" gitlabFlow ps fs :=
    ⟨_, _, rfl, rfl, rfl, by decide⟩
  have htrunk : ∃ ps fs, Provided "trunk-based" trunkBased ps fs := ⟨_, _, rfl, rfl, rfl, by decide⟩
  have hsimple : ∃ ps fs, Provided "simple" simple ps fs := ⟨_, _, rfl, rfl, rfl, by decide⟩
  simp only [provided, all, List.forall_mem_cons, List.not_mem_nil, false_imp_iff,
    implies_true, and_true]
  exact ⟨hbuiltIn, hgitflow, hgithub, hgitlab, htrunk, hsimple⟩

/-- Where a configuration comes with the tools, every name of a type is read as that type, up to two
types whose names are read as something else; and a branch is finished along the flow of the type
that its name is read as. -/
theorem typeOf?_makeName {strategy : String} (hc : (strategy, c) ∈ provided)
    (htype : (c.flows >>= (·.hasText type)) = .ok true) {description : String} {issue : Int}
    (hname : makeName type description issue c = .ok name) :
    typeOf? name c = .ok (readAs strategy type) ∧
    ∀ found w w', readAs strategy type = some found → load.exec w = (.ok c, w') →
      (finish (some name)).exec w =
        (do let flow ← flowOf found c; finishAlong found name flow : Tool Unit).exec w' := by
  obtain ⟨ps, fs, hprovided⟩ := exists_provided _ hc
  have hmem : type ∈ fs.map Prod.fst := by
    have hhas : (object fs).hasText type = .ok true := by
      rw [hprovided.flows] at htype
      exact htype
    rw [hasText, has_object, Except.ok.injEq, List.lookup_isSome_iff] at hhas
    obtain ⟨e, he, htype⟩ := hhas
    exact eq_of_beq htype ▸ List.mem_map_of_mem he
  obtain ⟨hne, hroom, hlead⟩ := hprovided.types type hmem
  have hentry : (prefixMap ps).fieldOr type (.str (type ++ "/")) =
      .ok (.str ((ps.lookup type).getD (type ++ "/"))) := by
    rw [fieldOr_prefixMap]
    cases ps.lookup type <;> rfl
  have hsetting : Setting c type ((ps.lookup type).getD (type ++ "/")) (.int 64) := by
    refine ⟨⟨_, hprovided.prefixes, hentry⟩, hprovided.limit, ?_⟩
    rw [before_of_whole rfl rfl, decide_eq_true (by exact_mod_cast hroom)]
  obtain ⟨r, -, -, hsplit, -⟩ := exists_of_makeName hsetting hname
  have hread := typeOf?_of_typeOfLead? hprovided.prefixes hlead ⟨r, hsplit.symm⟩
  refine ⟨hread, fun found w w' hfound hload => ?_⟩
  have hfinish : (finish (some name)).exec w = (finishBranch name c).exec w' :=
    (Tool.exec_bind_ok hload _).trans (Tool.exec_bind_ok (Tool.exec_pure name w') _)
  rw [hfinish, finishBranch_eq (hread.trans (congrArg Except.ok hfound))
    (ne_empty_of_readAs hfound hne)]

/-- With a single trunk, where features have no prefix, a hotfix is finished as a feature. -/
theorem typeOf?_makeName_hotfix :
    makeName "hotfix" "Fix It" 7 trunkBased = .ok "hotfix/issue-7-fix-it" ∧
    typeOf? "hotfix/issue-7-fix-it" trunkBased = .ok (some "feature") ∧
    ∀ w w', load.exec w = (.ok trunkBased, w') →
      (finish (some "hotfix/issue-7-fix-it")).exec w =
        (do
          let flow ← flowOf "feature" trunkBased
          finishAlong "feature" "hotfix/issue-7-fix-it" flow : Tool Unit).exec w' := by
  have hc : ("trunk-based", trunkBased) ∈ provided := by simp [provided, all]
  have hname : makeName "hotfix" "Fix It" 7 trunkBased = .ok "hotfix/issue-7-fix-it" := by rfl
  obtain ⟨hread, hfinish⟩ := typeOf?_makeName hc (by rfl) hname
  exact ⟨hname, hread, fun w w' => hfinish "feature" w w' rfl⟩

end Workbench.Branch
