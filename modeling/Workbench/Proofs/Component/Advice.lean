import Workbench.Proofs.Component.Verdicts
import Workbench.Proofs.Json.Printable
import Workbench.Proofs.Value.Entries

/-!
# The advice on empty matchers

An entry for a tool with an empty matcher is reported with the advice to write `*` for all tools.
That is no pattern, so it is reported as well.
-/

namespace Workbench.Component

open List Tool Value

variable {α β γ δ : Type} {w w' : World}

/-! ### Two computations -/

/-- Where the first computation answers, so does the second, with a related answer. -/
def Follows (R : α → β → Prop) (r : Result α) (r' : Result β) : Prop :=
  ∀ a, r = .ok a → ∃ b, r' = .ok b ∧ R a b

lemma follows_pure {R : α → β → Prop} {a : α} {b : β} (h : R a b) :
    Follows R (pure a) (pure b) := by
  intro a' ha
  exact ⟨b, rfl, Except.ok.inj ha ▸ h⟩

/-- Related answers are followed by related ones. -/
lemma Follows.bind {R : α → β → Prop} {S : γ → δ → Prop} {r : Result α} {r' : Result β}
    {f : α → Result γ} {g : β → Result δ} (h : Follows R r r')
    (hfg : ∀ a b, R a b → Follows S (f a) (g b)) :
    Follows S (r >>= f) (r' >>= g) := by
  intro c hc
  obtain ⟨a, ha, hc⟩ := exists_of_bind_ok hc
  obtain ⟨b, rfl, hab⟩ := h a ha
  exact hfg a b hab c hc

/-- What comes first is the same on both sides. -/
lemma follows_bind {R : β → γ → Prop} (r : Result α) {f : α → Result β} {g : α → Result γ}
    (h : ∀ a, r = .ok a → Follows R (f a) (g a)) : Follows R (r >>= f) (r >>= g) := by
  intro b hb
  obtain ⟨a, rfl, hb⟩ := exists_of_bind_ok hb
  exact h a rfl b hb

lemma follows_mapM {R : β → γ → Prop} {f : α → Result β} {g : α → Result γ} {xs : List α}
    (h : ∀ x ∈ xs, Follows R (f x) (g x)) : Follows (Forall₂ R) (xs.mapM f) (xs.mapM g) := by
  induction xs with
  | nil => exact follows_pure .nil
  | cons x xs ih =>
    rw [mapM_cons, mapM_cons]
    refine (h x (.head _)).bind fun b c hbc => ?_
    exact (ih fun y hy => h y (.tail _ hy)).bind fun bs cs hbcs => follows_pure (.cons hbc hbcs)

lemma forall₂_flatten {R : α → β → Prop} {xss : List (List α)} {yss : List (List β)}
    (h : Forall₂ (Forall₂ R) xss yss) :
    Forall₂ R xss.flatten yss.flatten := by
  induction h with
  | nil => exact .nil
  | cons hxy _ ih => exact rel_append hxy ih

namespace Hooks

/-! ### Findings on matchers -/

/-- What is reported of an empty matcher. -/
def emptyMatcher (intro : String) : Finding :=
  ⟨.error, s!"{intro}Empty matcher (use '*' for all tools)"⟩

/-- What is reported of the matcher that is advised instead. -/
def starMatcher (intro : String) : Finding :=
  ⟨.error, s!"{intro}Invalid regex in matcher '*': nothing to repeat at position 0"⟩

lemma ofMatcher_empty (intro : String) :
    ofMatcher intro (.str "") = .ok [emptyMatcher intro] := by
  have hparse : ∃ p, Pattern.parse {} "" = .ok p := ⟨_, rfl⟩
  obtain ⟨p, hp⟩ := hparse
  rw [ofMatcher, hp]
  rfl

lemma ofMatcher_star (intro : String) :
    ofMatcher intro (.str "*") = .ok [starMatcher intro] := by
  have hparse : Pattern.parse {} "*" = .error (.at "nothing to repeat" 0) := by rfl
  have htext (m reason : String) : s!"{intro}Invalid regex in matcher '{m}': {reason}" =
      intro ++ ("Invalid regex in matcher '" ++ m ++ "': " ++ reason) := by
    simp [String.append_assoc, toString]
  rw [ofMatcher, hparse]
  dsimp only
  rw [htext]
  rfl

/-- A text whose end tells that a finding with it is not the one on an empty matcher. -/
abbrev Apart (t : String) : Prop := 3 ≤ t.toList.length ∧ ¬ ['l', 's', ')'] <:+ t.toList

/-- What stands before such a text does not matter. -/
lemma apart_append {t : String} (ht : Apart t) (s : String) : Apart (s ++ t) := by
  rw [Apart, String.toList_append]
  refine ⟨ht.1.trans (suffix_append _ _).length_le, fun hend => ht.2 ?_⟩
  exact suffix_of_suffix_length_le hend (suffix_append _ _) ht.1

/-- So the finding is another one. -/
lemma ne_emptyMatcher {t : String} (ht : Apart t) (intro : String) :
    (⟨.error, t⟩ : Finding) ≠ emptyMatcher intro := by
  intro heq
  have htext : t = intro ++ "Empty matcher (use '*' for all tools)" := congrArg Finding.text heq
  rw [Apart, htext, String.toList_append] at ht
  exact ht.2 (IsSuffix.trans (by decide) (suffix_append _ _))

lemma exists_toString_concat (n : Nat) :
    ∃ ds d, (toString n).toList = ds ++ [d] ∧ d.isDigit = true := by
  have hlist : (toString n).toList = Nat.toDigits 10 n := String.toList_ofList
  obtain ⟨ds, d, hds⟩ := (eq_nil_or_concat' (Nat.toDigits 10 n)).resolve_left Nat.toDigits_ne_nil
  have hd : d ∈ Nat.toDigits 10 n := hds ▸ mem_append_right ds (.head _)
  exact ⟨ds, d, hlist.trans hds, Nat.isDigit_of_mem_toDigits (by decide) (by decide) hd⟩

/-- A number at the end, or in front of a parenthesis that is. -/
lemma apart_number {s t : String} (hs : 2 ≤ s.toList.length) (ht : t = "" ∨ t = ")") (n : Nat) :
    Apart (s ++ (toString n ++ t)) := by
  obtain ⟨ds, d, hds, hd⟩ := exists_toString_concat n
  simp only [Apart, String.toList_append, hds, length_append]
  refine ⟨by rw [length_singleton]; omega, ?_⟩
  rintro ⟨l, hl⟩
  obtain rfl | rfl := ht
  · have hlast := congrArg getLast? hl
    simp at hlast
    subst hlast
    cases hd
  · have hlast := congrArg (·.dropLast.getLast?) hl
    simp [← append_assoc] at hlast
    subst hlast
    cases hd

/-- A position ends in a digit, with a parenthesis behind it where a line is named too. -/
lemma apart_message (e : Pattern.Error) (m : String) : Apart (e.message m) := by
  cases e with
  | «at» reason pos =>
    rw [Pattern.Error.message]
    split_ifs
    · refine apart_append ?_ _
      simp only [String.append_assoc]
      refine apart_append (apart_append ?_ _) _
      exact (apart_number (by decide) (.inr rfl) _)
    · have htext : s!"{reason} at position {pos}" ++ "" =
          reason ++ (" at position " ++ (toString pos ++ "")) := by
        simp only [String.append_assoc, String.append_empty]
        rfl
      rw [htext]
      exact apart_append (apart_number (by decide) (.inl rfl) pos) reason
  | variableBehind => exact (by decide : Apart "look-behind requires fixed-width pattern")
  | tooManyRounds => exact (by decide : Apart "the repetition number is too large")

/-! ### Findings that are traded -/

/-- The finding on an empty matcher gives way to the one on `*`, and every other finding stays. -/
def Traded (f f' : Finding) : Prop :=
  (f' = f ∧ ∀ intro, f ≠ emptyMatcher intro) ∨
    ∃ intro, f = emptyMatcher intro ∧ f' = starMatcher intro

/-- The findings of two computations, where the first one answers. -/
abbrev Trades (r r' : Result (List Finding)) : Prop := Follows (Forall₂ Traded) r r'

lemma traded_error {t : String} (ht : Apart t) : Traded ⟨.error, t⟩ ⟨.error, t⟩ :=
  .inl ⟨rfl, ne_emptyMatcher ht⟩

lemma traded_errorIf (c : Bool) (s : String) {t : String} (ht : Apart t) :
    Forall₂ Traded (errorIf c (s ++ t)) (errorIf c (s ++ t)) := by
  cases c
  · exact .nil
  · exact .cons (traded_error (apart_append ht s)) .nil

lemma traded_warnIf (c : Bool) (text : String) :
    Forall₂ Traded (warnIf c text) (warnIf c text) := by
  cases c
  · exact .nil
  · exact .cons (.inl ⟨rfl, fun _ heq => by cases heq⟩) .nil

/-! ### Actions -/

/-- The scripts that commands run look the same in two worlds. -/
def SameScripts (w w' : World) : Prop := ∀ raw, answer (ofScript raw) w' = answer (ofScript raw) w

lemma trades_ofScript (h : SameScripts w w') (raw : String) :
    Trades (answer (ofScript raw) w) (answer (ofScript raw) w') := by
  rw [h, ofScript, answer_bind (sees_nodeAt raw)]
  refine follows_bind _ fun n _ => ?_
  split
  · exact follows_pure (traded_warnIf _ _)
  · exact follows_pure (traded_warnIf _ _)
  · exact follows_pure .nil

lemma trades_ofCommand (h : SameScripts w w') (intro command : String) :
    Trades (answer (ofCommand intro command) w) (answer (ofCommand intro command) w') := by
  have hempty (c : Bool) := traded_errorIf c intro (t := "Empty command") (by decide)
  simp only [ofCommand]
  split_ifs
  · split
    · split_ifs
      · rw [answer_bind (sees_ofScript _), answer_bind (sees_ofScript _)]
        exact (trades_ofScript h _).bind fun _ _ hfs => follows_pure (rel_append (hempty _) hfs)
      · exact follows_pure (hempty _)
    · exact follows_pure (hempty _)
  · exact follows_pure (hempty _)

/-- What is said where a field is missing stays, and so does all that is said of the field. -/
lemma trades_given {v : Value} {k s t : String} {f g : Value → Result (List Finding)} (ht : Apart t)
    (hfg : ∀ x, v.field k = .ok x → Trades (f x) (g x)) :
    Trades (do if !(← v.hasText k) then return errorIf true (s ++ t) else f (← v.field k))
      (do if !(← v.hasText k) then return errorIf true (s ++ t) else g (← v.field k)) := by
  refine follows_bind _ fun given _ => ?_
  cases given
  · exact follows_pure (traded_errorIf true s ht)
  · refine follows_bind _ fun x hx => ?_
    exact hfg _ hx

lemma trades_ofAction (h : SameScripts w w') (intro : String) (action : Value) :
    Trades (answer (ofAction intro action) w) (answer (ofAction intro action) w') := by
  rw [ofAction, answer_given, answer_given]
  refine trades_given (by decide) fun kind _ => ?_
  split
  · rw [answer_given, answer_given]
    refine trades_given (by decide) fun command _ => ?_
    rw [answer_lift_bind, answer_lift_bind]
    refine follows_bind _ fun text _ => ?_
    exact trades_ofCommand h intro text
  · rw [answer_given, answer_given]
    refine trades_given (by decide) fun prompt _ => ?_
    rw [answer_lift_bind, answer_lift_bind]
    refine follows_bind _ fun text _ => ?_
    exact follows_pure (traded_errorIf _ _ (by decide))
  · exact follows_pure (traded_errorIf _ _ (by decide))

/-- The findings on actions stay. -/
lemma trades_ofActions (h : SameScripts w w') (intro : String) (entry : Value) :
    Trades (answer (ofActions intro entry) w) (answer (ofActions intro entry) w') := by
  have hsees (p : Value × Nat) : Sees (ofAction s!"{intro}, item #{p.2 + 1}: " p.1) :=
    sees_ofAction _ _
  rw [ofActions, answer_given, answer_given]
  refine trades_given (by decide) fun actions _ => ?_
  split
  · rw [answer_bind (sees_mapM hsees _), answer_bind (sees_mapM hsees _), answer_mapM hsees,
      answer_mapM hsees]
    refine (follows_mapM fun p _ => trades_ofAction h _ p.1).bind fun _ _ hfss => ?_
    exact follows_pure (forall₂_flatten hfss)
  · exact follows_pure (traded_errorIf _ _ (by decide))

/-! ### Entries -/

lemma get?_of_field {v x : Value} {k : String} (h : v.field k = .ok x) : v.get? k = some x := by
  cases v with
  | map es =>
    rw [field] at h
    split at h
    · next hlookup => rw [get?, hlookup, Except.ok.inj h]
    · cases h
  | _ => cases h

/-- The findings on other matchers stay. -/
lemma trades_ofMatcher (intro : String) {m : Value} (hm : m ≠ .str "") :
    Trades (ofMatcher intro m) (ofMatcher intro m) := by
  cases m with
  | str m =>
    have hne : (m == "") = false := beq_eq_false_iff_ne.mpr fun h => hm (congrArg _ h)
    rw [ofMatcher, hne]
    dsimp only
    split
    · exact follows_pure .nil
    · rintro _ ⟨⟩
    · exact follows_pure (traded_errorIf true _ (apart_message _ m))
  | _ => rintro _ ⟨⟩

/-- Where no empty matcher is reported, all findings stay. -/
lemma trades_ofMatching {event : String} (intro : String) {entry : Value}
    (h : event ∈ toolEvents → entry.get? "matcher" ≠ some (.str "")) :
    Trades (ofMatching event intro entry) (ofMatching event intro entry) := by
  by_cases hevent : event ∈ toolEvents
  · simp only [ofMatching, contains_iff_mem.mpr hevent]
    refine trades_given (by decide) fun m hm => trades_ofMatcher intro ?_
    rintro rfl
    exact h hevent (get?_of_field hm)
  · simp only [ofMatching, contains_iff_mem, if_neg hevent]
    refine follows_bind _ fun given _ => ?_
    cases given
    · exact follows_pure .nil
    · refine follows_bind _ fun m _ => ?_
      exact follows_pure (traded_errorIf _ _ (by decide))

/-- An entry with `*` in the place of an empty matcher. -/
def advisedEntry (entry : Value) : Value :=
  match entry.get? "matcher" with
  | some (.str "") => entry.withKey "matcher" (.str "*")
  | _ => entry

lemma advisedEntry_cases (entry : Value) :
    (advisedEntry entry = entry ∧ entry.get? "matcher" ≠ some (.str "")) ∨
      ∃ es, entry = .map es ∧ lookup "matcher" es = some (.str "") ∧
        advisedEntry entry = .map (put "matcher" (.str "*") es) := by
  rw [advisedEntry]
  split
  · next hget =>
    cases entry with
    | map es => exact .inr ⟨es, rfl, hget, rfl⟩
    | _ => cases hget
  · next hother => exact .inl ⟨rfl, hother⟩

/-- On an empty matcher there is one finding, which is traded. -/
lemma ofMatching_advised {event : String} (hevent : event ∈ toolEvents) (intro : String)
    (entry : Value) :
    Trades (ofMatching event intro entry) (ofMatching event intro (advisedEntry entry)) := by
  obtain ⟨hsame, hother⟩ | ⟨es, rfl, hempty, hstar⟩ := advisedEntry_cases entry
  · rw [hsame]
    exact trades_ofMatching intro fun _ => hother
  · have hof {es : List (Value × Value)} {m : Value} (hm : lookup "matcher" es = some m) :
        ofMatching event intro (.map es) = ofMatcher intro m := by
      have hkey : (str "matcher").isKey = true := rfl
      simp only [ofMatching, hasText, has, if_pos hkey, contains_iff_mem.mpr hevent, field, hm]
      rfl
    rw [hstar, hof hempty, hof (m := .str "*") (by rw [lookup_put, if_pos rfl]), ofMatcher_empty,
      ofMatcher_star]
    exact follows_pure (.cons (.inr ⟨intro, rfl, rfl⟩) .nil)

/-- The actions of an entry do not depend on its matcher. -/
lemma ofActions_advised (intro : String) (entry : Value) :
    answer (ofActions intro (advisedEntry entry)) w = answer (ofActions intro entry) w := by
  obtain ⟨hsame, -⟩ | ⟨es, rfl, -, hstar⟩ := advisedEntry_cases entry
  · rw [hsame]
  · have hlookup : lookup "hooks" (put "matcher" (.str "*") es) = lookup "hooks" es := by
      rw [lookup_put, if_neg (by decide)]
    rw [hstar, ofActions, ofActions, answer_given, answer_given]
    simp only [hasText, has, field, hlookup]

lemma answer_ofEntry (event : String) (number : Nat) (entry : Value) :
    answer (ofEntry event number entry) w = (do
      let fs ← ofMatching event s!"Event '{event}' hook #{number}: " entry
      let gs ← answer (ofActions s!"Event '{event}' hook #{number}" entry) w
      return fs ++ gs : Result (List Finding)) := by
  rw [ofEntry, answer_lift_bind]
  refine congrArg _ (funext fun fs => ?_)
  rw [answer_bind (sees_ofActions _ _)]
  rfl

lemma trades_ofEntry (h : SameScripts w w') {event : String} {number : Nat} {entry entry' : Value}
    (hmatching : ∀ intro, Trades (ofMatching event intro entry) (ofMatching event intro entry'))
    (hactions : ∀ intro, answer (ofActions intro entry') w' = answer (ofActions intro entry) w') :
    Trades (answer (ofEntry event number entry) w) (answer (ofEntry event number entry') w') := by
  rw [answer_ofEntry, answer_ofEntry, hactions]
  refine (hmatching _).bind fun _ _ hfs => (trades_ofActions h _ entry).bind fun _ _ hgs => ?_
  exact follows_pure (rel_append hfs hgs)

/-! ### Configurations -/

/-- The entries of an event with the advice followed. -/
def advisedEvent (event : String) : Value → Value
  | .list es => .list (if event ∈ toolEvents then es.map advisedEntry else es)
  | other => other

/-- A configuration with `*` in the place of each empty matcher that is reported. -/
def advised (config : Value) : Value :=
  match config.get? "hooks" with
  | some (.map hooks) =>
    config.withKey "hooks" (.map (hooks.map fun e => (e.1, advisedEvent e.1.display e.2)))
  | _ => config

lemma answer_entries (event : String) (es : List Value) :
    answer (do return (← es.zipIdx.mapM fun (e, i) => ofEntry event (i + 1) e).flatten) w = (do
      return (← es.zipIdx.mapM fun p => answer (ofEntry event (p.2 + 1) p.1) w).flatten :
        Result (List Finding)) := by
  rw [answer_bind (sees_mapM (fun p => sees_ofEntry _ _ _) _), answer_mapM fun p =>
    sees_ofEntry _ _ _]
  rfl

lemma ofEvent_advised (h : SameScripts w w') (event : String) (entries : Value) :
    Trades (answer (ofEvent event entries) w)
      (answer (ofEvent event (advisedEvent event entries)) w') := by
  unfold ofEvent
  split_ifs with hknown
  · exact follows_pure (traded_errorIf _ _ (by decide +kernel))
  · cases entries with
    | list es =>
      rw [advisedEvent]
      dsimp only
      rw [answer_entries, answer_entries]
      split_ifs with hevent
      · rw [zipIdx_map, mapM_map]
        refine (follows_mapM fun p _ => ?_).bind fun _ _ hfss => follows_pure (forall₂_flatten hfss)
        exact trades_ofEntry h (fun _ => ofMatching_advised hevent _ _) fun _ =>
          ofActions_advised _ _
      · refine (follows_mapM fun p _ => ?_).bind fun _ _ hfss => follows_pure (forall₂_flatten hfss)
        exact trades_ofEntry h (fun _ => trades_ofMatching _ fun h => absurd h hevent) fun _ => rfl
    | _ => exact follows_pure (traded_errorIf _ _ (by decide))

lemma Traded.severity {f f' : Finding} (h : Traded f f') : f'.severity = f.severity := by
  obtain ⟨rfl, -⟩ | ⟨intro, rfl, rfl⟩ := h <;> rfl

/-- As many errors are left as there were. -/
lemma isEmpty_errors {fs fs' : List Finding} (h : Forall₂ Traded fs fs') :
    (errors fs').isEmpty = (errors fs).isEmpty := by
  induction h with
  | nil => rfl
  | cons hf _ ih =>
    simp only [errors, filter_cons, hf.severity] at ih ⊢
    split_ifs
    · rfl
    · exact ih

/-- A verdict and what the advice makes of it. -/
structure Advises (v v' : Verdict) : Prop where
  judged : v.valid = (errors v.findings).isEmpty
  valid : v'.valid = v.valid
  findings : Forall₂ Traded v.findings v'.findings

lemma advises_refusal {text : String} (h : Apart text) : Advises (refusal text) (refusal text) :=
  ⟨rfl, rfl, .cons (traded_error h) .nil⟩

lemma advises_lenient {fs fs' : List Finding} (h : Forall₂ Traded fs fs') :
    Advises (lenient fs) (lenient fs') :=
  ⟨rfl, isEmpty_errors h, h⟩

lemma review_map {es hooks : List (Value × Value)} (h : lookup "hooks" es = some (.map hooks)) :
    answer (review (.map es)) w = (do
      let fss ← hooks.mapM fun e => answer (ofEvent e.1.display e.2) w
      return lenient (fss.flatten ++
        warnIf hooks.isEmpty "No hooks defined (hooks object is empty)") : Result Verdict) := by
  have hkey : (str "hooks").isKey = true := rfl
  rw [review, answer_given]
  simp only [hasText, has, if_pos hkey, field, h]
  have hsees (p : Value × Value) : Sees (ofEvent p.1.display p.2) := sees_ofEvent _ _
  change answer (hooks.mapM (fun p => ofEvent p.1.display p.2) >>= fun fss =>
    pure (lenient (fss.flatten ++ _))) w = _
  rw [answer_bind (sees_mapM hsees _), answer_mapM hsees]
  rfl

lemma review_advised (h : SameScripts w w') (config : Value) :
    Follows Advises (answer (review config) w) (answer (review (advised config)) w') := by
  rw [advised]
  split
  · next hooks hget =>
    obtain ⟨es, rfl⟩ : ∃ es, config = .map es := by
      cases config with
      | map es => exact ⟨es, rfl⟩
      | _ => cases hget
    rw [withKey, review_map hget, review_map (by rw [lookup_put, if_pos rfl]),
      mapM_map, isEmpty_map]
    refine (follows_mapM fun e _ => ofEvent_advised h e.1.display e.2).bind fun fss fss' hfss =>
      follows_pure ?_
    exact advises_lenient (rel_append (forall₂_flatten hfss) (traded_warnIf _ _))
  · next hother =>
    rw [review, answer_given, answer_given]
    refine follows_bind _ fun b _ => ?_
    cases b
    · exact follows_pure (advises_refusal (by decide))
    · refine follows_bind _ fun x hfield => ?_
      cases x with
      | map hooks => exact absurd (get?_of_field hfield) (hother hooks)
      | _ => exact follows_pure (advises_refusal (by decide))

/-! ### Verdicts -/

lemma exec_check {file : String} {c : Content} {config : Value}
    (hreaches : w.Reaches (Path.ofString file).toString)
    (hfile : w.file? (Path.ofString file).toString = some c) (hreads : c.Reads config) :
    (check file).exec w = (answer (review config) w, w) := by
  obtain ⟨text, hdecode, hparse⟩ := hreads
  have hread : (readOr (Path.ofString file).toString "Failed to read file: ").exec w =
      (.ok (.ok text), w) :=
    exec_guarded_ok (exec_bind_ok (exec_readText_ok hreaches hfile hdecode) _) _ _
  obtain ⟨r, hr⟩ := sees_review config w
  rw [check, exec_bind_ok (exec_pathExists_of_file? hreaches hfile), if_neg (by decide),
    exec_bind_ok hread]
  dsimp only
  rw [hparse]
  dsimp only
  rw [answer, hr w rfl rfl]

/-- Whoever follows the advice on empty matchers gets the same verdict again, with as many errors,
one for each before.  So a configuration that has no other errors is not mended by it. -/
theorem advised_verdict {file file' : String} {c c' : Content} {config : Value} {v : Verdict}
    (hreaches : w.Reaches (Path.ofString file).toString)
    (hfile : w.file? (Path.ofString file).toString = some c) (hreads : c.Reads config)
    (hreaches' : w'.Reaches (Path.ofString file').toString)
    (hfile' : w'.file? (Path.ofString file').toString = some c')
    (hreads' : c'.Reads (advised config)) (hscripts : SameScripts w w')
    (hcheck : (check file).exec w = (.ok v, w)) :
    ∃ v', (check file').exec w' = (.ok v', w') ∧ Forall₂ Traded v.findings v'.findings ∧
      (v'.valid = true ↔ errors v.findings = []) := by
  rw [exec_check hreaches hfile hreads] at hcheck
  obtain ⟨v', hv', hadvises⟩ := review_advised hscripts config v (Prod.mk.inj hcheck).1
  refine ⟨v', by rw [exec_check hreaches' hfile' hreads', hv'], hadvises.findings, ?_⟩
  rw [hadvises.valid, hadvises.judged, List.isEmpty_iff]

/-- A configuration with one entry. -/
def matching (matcher : String) : Value :=
  .object [("hooks", .object [("PreToolUse",
    .list [.object [("matcher", .str matcher), ("hooks", .list [])]])])]

/-- The text of a configuration with one entry. -/
def matchingText (matcher : String) : String :=
  "\x7b\n  \"hooks\": \x7b\n    \"PreToolUse\": [\n      \x7b\n        \"matcher\": \""
    ++ matcher ++ "\",\n        \"hooks\": []\n      \x7d\n    ]\n  \x7d\n\x7d"

lemma reads_matching (matcher : String)
    (h : Json.render (jsonLayout {} .indented) (matching matcher) = .ok (matchingText matcher)) :
    (Content.text (matchingText matcher)).Reads (matching matcher) := by
  have hplain : Json.Plain Json.nestingLimit (matching matcher) := by
    refine .object (by simp)
      (forall_mem_singleton.mpr (.object (by simp) (forall_mem_singleton.mpr (.list ?_))))
    refine forall_mem_singleton.mpr
      (.object (by simp) (forall_mem_cons.mpr ⟨.str _, forall_mem_singleton.mpr ?_⟩))
    exact .list (forall_mem_nil _)
  exact Content.reads_render (Json.sane_jsonLayout {}) hplain h

/-- A configuration with an empty matcher, and the same with the advised one. -/
def matchers : World where
  files := { entries := [(["a.json"], .file (.text (matchingText "")) false),
    (["b.json"], .file (.text (matchingText "*")) false)] }

/-- The configuration that follows the advice is refused. -/
theorem star_is_refused :
    ∃ v, (check "b.json").exec matchers = (.ok v, matchers) ∧ v.valid = false := by
  have hempty := reads_matching "" (by decide +kernel)
  have hstar : (Content.text (matchingText "*")).Reads (advised (matching "")) :=
    reads_matching "*" (by decide +kernel)
  have ha : matchers.Reaches (Path.ofString "a.json").toString := ⟨by decide, by rfl⟩
  have hb : matchers.Reaches (Path.ofString "b.json").toString := ⟨by decide, by rfl⟩
  have hcheck : (check "a.json").exec matchers =
      (.ok (lenient [emptyMatcher "Event 'PreToolUse' hook #1: "]), matchers) := by
    rw [exec_check ha (by rfl) hempty]
    rfl
  obtain ⟨v, hv, -, hvalid⟩ :=
    advised_verdict ha (by rfl) hempty hb (by rfl) hstar (fun _ => rfl) hcheck
  exact ⟨v, hv, Bool.eq_false_iff.mpr fun h => absurd (hvalid.mp h) (by decide)⟩

end Hooks

end Workbench.Component
