import Workbench.Proofs.Json.Printable
import Workbench.Proofs.Research.Log
import Workbench.Proofs.Value.Entries

/-!
# The table of tags of a log

Beside the index of a log stands a table of the tags, which is filled tag by tag.  It tells how
often each tag occurs and which tags occur together (`tags_tabulated`).
-/

open Except

namespace Workbench.Research

open List Value Json

/-! ### The table of tags -/

/-- The tags of an entry that are texts. -/
def Entry.tagTexts (e : Entry) : List String :=
  match e.tags with
  | .ok (.list vs) => vs.filterMap str?
  | _ => []

lemma Entry.tagTexts_eq {e : Entry} {ts : List String} (h : e.tags = .ok (.strings ts)) :
    e.tagTexts = ts := by
  rw [tagTexts, h, strings]
  dsimp only
  rw [filterMap_map]
  exact filterMap_some

/-- The tags of an entry are a list of texts. -/
def Entry.hasTextTags (e : Entry) : Bool :=
  match e.tags with
  | .ok (.list vs) => vs.all fun v => v.str?.isSome
  | _ => false

lemma Entry.exists_strings {e : Entry} (h : e.hasTextTags = true) :
    ∃ ts, e.tags = .ok (.strings ts) := by
  unfold hasTextTags at h
  split at h
  · rename_i vs htags
    refine ⟨vs.filterMap str?, ?_⟩
    rw [htags, strings]
    congr 2
    clear htags
    induction vs with
    | nil => rfl
    | cons v vs ih =>
      rw [all_cons, Bool.and_eq_true] at h
      obtain ⟨s, hs⟩ := Option.isSome_iff_exists.mp h.1
      obtain rfl : v = .str s := by cases v <;> cases hs; rfl
      rw [filterMap_cons_some hs, map_cons, ← ih h.2]
  · cases h

namespace Learning

/-- A tag of an entry, with the id and all tags of the entry. -/
structure Visit where
  id : String
  tags : List String
  tag : String

variable {vs : List Visit} {v : Visit} {t u : String} {es : List Entry}

/-- The visits to the tags of an entry. -/
def visitsOf (e : Entry) : List Visit := e.tagTexts.map fun t => ⟨e.id, e.tagTexts, t⟩

/-- The visits to a tag. -/
def visitsTo (vs : List Visit) (t : String) : List Visit := vs.filter fun v => v.tag == t

/-- The tags that stand beside a tag. -/
def besides (vs : List Visit) (t : String) : List String :=
  Text.dedup ((visitsTo vs t).flatMap fun v => v.tags.filter (· != t))

/-- What the table says of a tag after some visits. -/
def rowOf (vs : List Visit) (t : String) : TagRecord where
  tag := t
  learnings := (visitsTo vs t).map Visit.id
  related := (besides vs t).map str

/-- The table that visits make up. -/
def rowsOf (vs : List Visit) : List TagRecord := (Text.dedup (vs.map Visit.tag)).map (rowOf vs)

/-- What a visit adds to the row of its tag. -/
def extend (v : Visit) (r : TagRecord) : TagRecord :=
  { r with
    learnings := r.learnings ++ [v.id]
    related := ((v.tags.filter (· != v.tag)).map str).foldl
      (fun acc t => if acc.any (·.same t) then acc else acc ++ [t])
      r.related }

lemma rowOf_concat (vs : List Visit) (v : Visit) (t : String) :
    rowOf (vs ++ [v]) t = if t = v.tag then extend v (rowOf vs t) else rowOf vs t := by
  split_ifs with ht
  · have hhere : visitsTo (vs ++ [v]) v.tag = visitsTo vs v.tag ++ [v] := by simp [visitsTo]
    rw [ht]
    simp only [rowOf, extend, besides, hhere, map_append, map_singleton, flatMap_append,
      flatMap_singleton, Text.dedup_append, foldl_distinct]
  · have hother : visitsTo (vs ++ [v]) t = visitsTo vs t := by simp [visitsTo, Ne.symm ht]
    simp only [rowOf, besides, hother]

lemma filter_same (ts : List String) (t : String) :
    (ts.map str).filter (fun u => !u.same t) = (ts.filter (· != t)).map str := by
  rw [filter_map]
  rfl

lemma addTag_eq (v : Visit) (table : List TagRecord) :
    addTag v.id (v.tags.map str) table v.tag = .ok
      (if table.any (·.tag.same v.tag) then
        table.map fun r => if r.tag.same v.tag then extend v r else r
      else table ++ [extend v { tag := v.tag }]) := by
  have hkeys : ((v.tags.filter (· != v.tag)).map str).find? (fun t => !t.isKey) = none := by
    simp [isKey]
  rw [addTag, if_neg (by simp [isKey])]
  simp only [filter_same, hkeys]
  split_ifs <;> rfl

/-- One visit. -/
lemma addTag_rowsOf (vs : List Visit) (v : Visit) :
    addTag v.id (v.tags.map str) (rowsOf vs) v.tag = .ok (rowsOf (vs ++ [v])) := by
  have hany : (rowsOf vs).any (fun r => r.tag.same v.tag) =
      (Text.dedup (vs.map Visit.tag)).contains v.tag := by
    rw [rowsOf, any_map, contains_eq_any_beq]
    congr 1
    funext t
    simp [rowOf, Bool.beq_comm]
  rw [addTag_eq, hany, rowsOf, rowsOf, map_append, map_singleton, Text.dedup_append,
    foldl_cons, foldl_nil]
  split_ifs with hold
  · rw [map_map]
    refine congrArg Except.ok (map_congr_left fun t _ => ?_)
    rw [Function.comp_apply, rowOf_concat, show (rowOf vs t).tag = str t from rfl, same_str]
    simp only [beq_iff_eq]
  · have hnew : v.tag ∉ vs.map Visit.tag := by simpa [Text.mem_dedup] using hold
    have hempty : visitsTo vs v.tag = [] := by
      refine filter_eq_nil_iff.mpr fun v' hv' heq => hnew ?_
      rw [← eq_of_beq heq]
      exact mem_map_of_mem hv'
    have hrow : rowOf vs v.tag = { tag := v.tag } := by simp [rowOf, besides, hempty, Text.dedup]
    rw [map_append, map_singleton, rowOf_concat, if_pos rfl, hrow]
    refine congrArg (fun rows => Except.ok (rows ++ [_])) (map_congr_left fun t ht => ?_)
    rw [rowOf_concat, if_neg]
    rintro rfl
    exact hnew (Text.mem_dedup.mp ht)

lemma foldlM_addTag {α : Type} {f : List TagRecord → α → Result (List TagRecord)}
    (visits : α → List Visit) {xs : List α}
    (hstep : ∀ vs, ∀ x ∈ xs, f (rowsOf vs) x = .ok (rowsOf (vs ++ visits x))) (vs : List Visit) :
    xs.foldlM f (rowsOf vs) = .ok (rowsOf (vs ++ xs.flatMap visits)) := by
  induction xs generalizing vs with
  | nil => simp [pure, Except.pure]
  | cons x xs ih =>
    rw [foldlM_cons, hstep vs x mem_cons_self, flatMap_cons, ← append_assoc]
    exact ih (fun vs y hy => hstep vs y (mem_cons_of_mem x hy)) _

/-- A whole run: the table has a row for each tag that was visited, in the order of the first
visits. -/
theorem tagTable_eq (h : ∀ e ∈ es, ∃ ts, e.tags = .ok (.strings ts)) :
    tagTable es = .ok (rowsOf (es.flatMap visitsOf)) := by
  refine (foldlM_addTag visitsOf (fun vs e he => ?_) []).trans (by rw [nil_append])
  obtain ⟨ts, hts⟩ := h e he
  have hvisits : visitsOf e = ts.map fun t => ⟨e.id, ts, t⟩ := by
    rw [visitsOf, Entry.tagTexts_eq hts]
  have hrun : (ts.map str).foldlM (addTag e.id (ts.map str)) (rowsOf vs) =
      .ok (rowsOf (vs ++ (ts.map str).flatMap fun x => [⟨e.id, ts, x.display⟩])) := by
    refine foldlM_addTag _ (fun vs x hx => ?_) vs
    obtain ⟨t, -, rfl⟩ := mem_map.mp hx
    exact addTag_rowsOf vs ⟨e.id, ts, t⟩
  rw [hts]
  refine hrun.trans ?_
  rw [hvisits, flatMap_map, ← map_eq_flatMap]
  rfl

/-! ### What the table says -/

/-- The value of a row. -/
def rowValue (vs : List Visit) (t : String) : Value :=
  .object [("count", .int (visitsTo vs t).length),
    ("learnings", .strings ((visitsTo vs t).map Visit.id)),
    ("related", .strings (Text.sort (besides vs t)))]

lemma tableValue_rowsOf (vs : List Visit) :
    tableValue (rowsOf vs) = .object
      ((Text.dedup (vs.map Visit.tag)).map fun t => (t, rowValue vs t)) := by
  rw [tableValue, rowsOf, object, map_map, map_map]
  refine congrArg Value.map (map_congr_left fun t _ => ?_)
  simp only [Function.comp_apply, rowOf, mergeSort_display, length_map]
  rfl

lemma lookup_map_self {f : String → Value} {ts : List String} :
    (ts.map fun t => (t, f t)).lookup u = if u ∈ ts then some (f u) else none := by
  induction ts with
  | nil => rfl
  | cons t ts ih =>
    rw [map_cons, lookup_cons, ih]
    by_cases hu : u = t
    · simp [hu]
    · simp [hu, beq_eq_false_iff_ne.mpr hu]

lemma field_tableValue_iff {row : Value} :
    (tableValue (rowsOf vs)).field t = .ok row ↔ t ∈ vs.map Visit.tag ∧ row = rowValue vs t := by
  rw [tableValue_rowsOf, object_eq, field, lookup_keyed, lookup_map_self]
  simp only [Text.mem_dedup]
  split_ifs with ht
  · simp [ht, eq_comm]
  · simp [ht]

lemma map_tag_visits (es : List Entry) :
    (es.flatMap visitsOf).map Visit.tag = es.flatMap Entry.tagTexts := by
  simp [visitsOf, map_flatMap, Function.comp_def]

lemma mem_tags_iff : t ∈ (es.flatMap visitsOf).map Visit.tag ↔ ∃ e ∈ es, t ∈ e.tagTexts := by
  rw [map_tag_visits, mem_flatMap]

lemma length_visitsTo (es : List Entry) (t : String) :
    (visitsTo (es.flatMap visitsOf) t).length = (es.flatMap Entry.tagTexts).count t := by
  rw [← map_tag_visits, visitsTo, count, countP_map, countP_eq_length_filter]
  rfl

lemma mem_besides_iff :
    u ∈ besides (es.flatMap visitsOf) t ↔ t ≠ u ∧ ∃ e ∈ es, t ∈ e.tagTexts ∧ u ∈ e.tagTexts := by
  simp only [besides, Text.mem_dedup, visitsTo, mem_flatMap, mem_filter, beq_iff_eq, bne_iff_ne]
  constructor
  · rintro ⟨v, ⟨⟨e, he, hv⟩, rfl⟩, hu, hne⟩
    obtain ⟨t, ht, rfl⟩ := mem_map.mp hv
    exact ⟨Ne.symm hne, e, he, ht, hu⟩
  · rintro ⟨hne, e, he, ht, hu⟩
    exact ⟨⟨e.id, e.tagTexts, t⟩, ⟨⟨e, he, mem_map_of_mem ht⟩, rfl⟩, hu, Ne.symm hne⟩

/-- The table has the second tag beside the first. -/
def RelatedIn (table : Value) (t u : String) : Prop :=
  ∃ row us, table.field t = .ok row ∧ row.field "related" = .ok (.strings us) ∧ u ∈ us

lemma relatedIn_iff : RelatedIn (tableValue (rowsOf (es.flatMap visitsOf))) t u ↔
    t ≠ u ∧ ∃ e ∈ es, t ∈ e.tagTexts ∧ u ∈ e.tagTexts := by
  have hrelated : (rowValue (es.flatMap visitsOf) t).field "related" =
      .ok (.strings (Text.sort (besides (es.flatMap visitsOf) t))) := field_object rfl
  have hmem : u ∈ Text.sort (besides (es.flatMap visitsOf) t) ↔ t ≠ u ∧
      ∃ e ∈ es, t ∈ e.tagTexts ∧ u ∈ e.tagTexts := by
    rw [Text.sort, mem_mergeSort, mem_besides_iff]
  constructor
  · rintro ⟨row, us, hrow, hus, hu⟩
    obtain ⟨-, rfl⟩ := field_tableValue_iff.mp hrow
    obtain rfl := strings_injective (Except.ok.inj (hrelated.symm.trans hus))
    exact hmem.mp hu
  · intro h
    obtain ⟨e, he, ht, -⟩ := h.2
    exact ⟨_, _, field_tableValue_iff.mpr ⟨mem_tags_iff.mpr ⟨e, he, ht⟩, rfl⟩, hrelated, hmem.mpr h⟩

/-- A table of the tags of some entries. -/
structure Tabulates (es : List Entry) (table : Value) : Prop where
  keys : ∃ rows, table = .object rows ∧ (rows.map Prod.fst).Nodup ∧ ∀ t,
    t ∈ rows.map Prod.fst ↔ ∃ e ∈ es, t ∈ e.tagTexts
  counts : ∀ t row, table.field t = .ok row → ∃ ids, row.field "learnings" = .ok (.strings ids) ∧
    row.field "count" = .ok (.int ids.length) ∧ ids.length = (es.flatMap Entry.tagTexts).count t
  irreflexive : ∀ t, ¬ RelatedIn table t t
  symmetric : ∀ t u, RelatedIn table t u → RelatedIn table u t
  together : ∀ t u, RelatedIn table t u ↔ t ≠ u ∧ ∃ e ∈ es, t ∈ e.tagTexts ∧ u ∈ e.tagTexts

lemma tabulates_rowsOf (es : List Entry) :
    Tabulates es (tableValue (rowsOf (es.flatMap visitsOf))) where
  keys := by
    refine ⟨_, tableValue_rowsOf _, ?_, fun t => ?_⟩ <;> rw [map_map, Function.comp_def, map_id']
    · exact Text.nodup_dedup _
    · rw [Text.mem_dedup, mem_tags_iff]
  counts := by
    intro t row hrow
    obtain ⟨-, rfl⟩ := field_tableValue_iff.mp hrow
    refine ⟨_, field_object rfl, ?_, (length_map _).trans (length_visitsTo es t)⟩
    rw [length_map]
    exact field_object rfl
  irreflexive := fun t h => (relatedIn_iff.mp h).1 rfl
  symmetric := by
    intro t u h
    obtain ⟨hne, e, he, ht, hu⟩ := relatedIn_iff.mp h
    exact relatedIn_iff.mpr ⟨hne.symm, e, he, hu, ht⟩
  together := fun _ _ => relatedIn_iff

lemma plain_tableValue (vs : List Visit) (d : Nat) : Plain (d + 3) (tableValue (rowsOf vs)) := by
  have hstrings : ∀ ts : List String, Plain (d + 1) (.strings ts) := by
    intro ts
    refine .list fun x hx => ?_
    obtain ⟨t, -, rfl⟩ := mem_map.mp hx
    exact .str t
  rw [tableValue_rowsOf]
  refine .object ?_ fun p hp => ?_
  · rw [map_map, Function.comp_def, map_id']
    exact Text.nodup_dedup _
  · obtain ⟨t, -, rfl⟩ := mem_map.mp hp
    refine .object (by simp) (forall_mem_cons.mpr ⟨.int _, forall_mem_cons.mpr ⟨hstrings _, ?_⟩⟩)
    exact forall_mem_singleton.mpr (hstrings _)

/-- The table of the tags of entries whose tags are texts: a key for each tag that occurs, the
number of its occurrences, and which tags occur together. -/
theorem tags_tabulated (h : ∀ e ∈ es, ∃ ts, e.tags = .ok (.strings ts)) :
    ∃ table, tagTable es = .ok table ∧ Tabulates es (tableValue table) ∧
      ∀ w w₁ w', w.memory = none → (list none none).exec w = (.ok es, w₁) →
        updateIndex.exec w = (.ok (), w') →
        ∃ c, w'.file? (directory w / "tags.json").toString = some c ∧
          c.Reads (tableValue table) := by
  refine ⟨_, tagTable_eq h, tabulates_rowsOf es, fun w w₁ w' hw hlist hup => ?_⟩
  obtain ⟨es', _, table, w₂, s, hlist', htable, hframes, hrender, hkeep⟩ :=
    exists_of_updateIndex hw hup
  obtain rfl : es = es' := Except.ok.inj (Prod.mk.inj (hlist.symm.trans hlist')).1
  obtain rfl := Except.ok.inj ((tagTable_eq h).symm.trans htable)
  rw [Tool.exec_keepText (hframes.memory.trans hw)] at hkeep
  exact ⟨_, (World.Frames.of_writeText hkeep).2.2,
    Content.reads_render (sane_jsonLayout _) (plain_tableValue _ _) hrender⟩

def taggedNotes : List Entry :=
  [⟨⟨true, ["a.md"]⟩, .object [("tags", .strings ["lean", "proofs", "lean"])], ""⟩,
   ⟨⟨true, ["b.md"]⟩, .object [("tags", .strings ["tests", "lean"])], ""⟩]

/-- A log with one learning. -/
def taggedLog : World where
  files := { entries := [([".learning-log"], .dir), ([".learning-log", "2025-01"], .dir),
    ([".learning-log", "2025-01", "a.md"],
      .file (.text "---\ntags: [lean, proofs]\n---\nx") false)] }

/-- A table of tags, and the table that is written for a log. -/
theorem taggedNotes_tabulated :
    (∃ table, tagTable taggedNotes = .ok table ∧ Tabulates taggedNotes (tableValue table) ∧
      RelatedIn (tableValue table) "lean" "tests" ∧
        ¬ RelatedIn (tableValue table) "proofs" "tests") ∧
    ∃ es w₁ w' table c, (list none none).exec taggedLog = (.ok es, w₁) ∧
      es.map Entry.tagTexts = [["lean", "proofs"]] ∧
      updateIndex.exec taggedLog = (.ok (), w') ∧
        w'.file? (directory taggedLog / "tags.json").toString = some c ∧
      c.Reads (tableValue table) ∧ Tabulates es (tableValue table) := by
  have htags : ∀ e ∈ taggedNotes, ∃ ts, e.tags = .ok (.strings ts) :=
    forall_mem_cons.mpr ⟨⟨_, rfl⟩, forall_mem_singleton.mpr ⟨_, rfl⟩⟩
  obtain ⟨table, htable, htabulates, -⟩ := tags_tabulated htags
  refine ⟨⟨table, htable, htabulates, ?_, ?_⟩, ?_⟩
  · rw [htabulates.together]
    decide
  · rw [htabulates.together]
    decide
  · -- values cannot be compared by evaluation, so what is read is told by its tags
    have hread : ((list none none).exec taggedLog).1.toOption.map (·.map Entry.tagTexts) =
        some [["lean", "proofs"]] := by
      decide +kernel
    have hall : (((list none none).exec taggedLog).1.toOption.all (·.all Entry.hasTextTags)) =
        true := by decide +kernel
    have hwrites : (updateIndex.exec taggedLog).1.isOk = true := by decide +kernel
    rcases hlist : (list none none).exec taggedLog with ⟨_ | es, w₁⟩
    · rw [hlist] at hread
      cases hread
    rcases hup : updateIndex.exec taggedLog with ⟨_ | _, w'⟩
    · rw [hup] at hwrites
      cases hwrites
    rw [hlist] at hread hall
    obtain ⟨table, -, htabulates, hholds⟩ :=
      tags_tabulated fun e he => Entry.exists_strings (all_eq_true.mp hall e he)
    obtain ⟨c, hfile, hreads⟩ := hholds _ _ _ rfl hlist hup
    exact ⟨es, w₁, w', table, c, rfl, Option.some.inj hread, rfl, hfile, hreads, htabulates⟩

end Learning

end Workbench.Research
