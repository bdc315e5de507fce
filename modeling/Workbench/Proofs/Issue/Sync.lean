import Workbench.Issue.Tracker
import Workbench.Proofs.Json.Documents
import Workbench.Proofs.World.Calls
import Workbench.Proofs.World.Loops

/-!
# Issues that are fetched and kept

What the hosting service lists is kept in a file as a whole or not at all.
-/

open List

namespace Workbench

open Value Text Json

namespace Issue

open Workspace (environmentFile)

variable {v : Value} {i : Listed} {issues : List Listed}

/-! ### Issues and their records -/

/-- An issue as the hosting service lists it. -/
structure Listed where
  number : Int
  title : String
  state : String
  labels : List String
  assignees : List String
  milestone : Option String
  createdAt : String
  updatedAt : String
  url : String
  body : Option String

/-- The record that is kept of an issue. -/
def Listed.record (i : Listed) : Value :=
  .object [("number", .int i.number), ("title", .str i.title), ("state", .str i.state),
    ("labels", .strings i.labels), ("assignees", .strings i.assignees),
    ("milestone", .ofOption .str i.milestone), ("created_at", .str i.createdAt),
    ("updated_at", .str i.updatedAt), ("url", .str i.url),
    ("body_preview", .str (take (i.body.getD "") 500))]

/-- Under a key there is a list of objects, whose names are texts under a key of theirs, or are
empty. -/
def HasNames (v : Value) (list key : String) (names : List String) : Prop :=
  ∃ members, v.field list = .ok (.list members) ∧
    Forall₂ (fun m name => m.fieldOr key "" = .ok name) members names

/-- The object tells the issue. -/
structure Tells (v : Value) (i : Listed) : Prop where
  number : v.field "number" = .ok i.number
  title : v.field "title" = .ok i.title
  state : v.field "state" = .ok i.state
  labels : HasNames v "labels" "name" i.labels
  assignees : HasNames v "assignees" "login" i.assignees
  milestone : (v.field "milestone" = .ok .null ∧ i.milestone = none) ∨
    ∃ es, v.field "milestone" = .ok (.map es) ∧
      (map es).fieldOrNull "title" = .ok (.ofOption .str i.milestone)
  createdAt : v.field "createdAt" = .ok i.createdAt
  updatedAt : v.field "updatedAt" = .ok i.updatedAt
  url : v.field "url" = .ok i.url
  body : v.field "body" = .ok (.ofOption .str i.body)

lemma HasNames.namesUnder {list key : String} {names : List String}
    (h : HasNames v list key names) :
    namesUnder v list key = .ok (.strings names) := by
  obtain ⟨members, hlist, hnames⟩ := h
  have hmapM : members.mapM (fun m => m.fieldOr key "") = .ok (names.map str) :=
    mapM_eq_ok_iff.mpr (forall₂_map_right_iff.mpr hnames)
  rw [Issue.namesUnder, fieldOr_of_field hlist]
  simp only [parts, bind, Except.bind, hmapM]
  rfl

lemma Tells.exists_milestone (h : Tells v i) : ∃ m, v.fieldOrNull "milestone" = .ok m ∧
      (if m.truthy then m.fieldOrNull "title" else .ok .null) =
        .ok (.ofOption .str i.milestone) := by
  rcases h.milestone with ⟨hnull, hnone⟩ | ⟨es, hobject, htitle⟩
  · exact ⟨.null, fieldOr_of_field hnull _, by rw [hnone]; rfl⟩
  · refine ⟨.map es, fieldOr_of_field hobject _, ?_⟩
    cases es with
    | nil => rw [← htitle]; rfl
    | cons e es => exact htitle

lemma front_body (body : Option String) :
    (if (ofOption .str body).truthy then ofOption .str body else .str "").front 500 =
      .ok (.str (take (body.getD "") 500)) := by
  rcases body with _ | s
  · rfl
  · by_cases hs : s = ""
    · subst hs
      rfl
    · have htruthy : (str s).truthy = true := by simpa [truthy] using hs
      rw [ofOption, if_pos htruthy, front, Option.getD_some]

/-- What the service tells of an issue is kept as its record. -/
theorem Tells.recordOf (h : Tells v i) : recordOf v = .ok i.record := by
  obtain ⟨m, hm, htitle⟩ := h.exists_milestone
  rw [Issue.recordOf, hm, fieldOr_of_field h.body, fieldOrNull, fieldOr_of_field h.number,
    fieldOr_of_field h.title, fieldOr_of_field h.state, h.labels.namesUnder, h.assignees.namesUnder,
    fieldOr_of_field h.createdAt, fieldOr_of_field h.updatedAt, fieldOr_of_field h.url]
  simp only [bind, Except.bind, front_body]
  split_ifs at htitle ⊢ with htruthy
  · rw [htitle]; rfl
  · rw [Listed.record, ← Except.ok.inj htitle]; rfl

lemma mapFloats_record (f : Float → Float) (i : Listed) : i.record.mapFloats f = i.record := by
  have hstrings : ∀ ss : List String, (strings ss).mapFloats f = .strings ss := fun ss => by
    rw [strings, mapFloats_list, map_map]
    rfl
  have hmilestone : (ofOption .str i.milestone).mapFloats f = .ofOption .str i.milestone := by
    cases i.milestone <;> rfl
  rw [Listed.record, mapFloats_object]
  simp only [map_cons, map_nil, hstrings, hmilestone, mapFloats]

variable {d d' : Nat}

lemma writable_strings (ss : List String) : Writable (d + 1) (.strings ss) :=
  .list fun x hx => by
    obtain ⟨s, -, rfl⟩ := mem_map.mp hx
    exact writable_str s

lemma writable_ofOption (s : Option String) : Writable d (.ofOption .str s) := by
  cases s
  · exact writable_null
  · exact writable_str _

lemma writable_record (h : Short Decimal.digitLimit i.number) : Writable (d + 2) i.record := by
  refine .object (by simp) ?_
  simpa using ⟨⟨.int _, h⟩, writable_str _, writable_str _, writable_strings _, writable_strings _,
    writable_ofOption _, writable_str _, writable_str _, writable_str _, writable_str _⟩

lemma Tells.writable (h : Tells v i) (hv : Writable (d + 1) v) : Writable (d' + 2) i.record :=
  writable_record (hv.fieldOr writable_null (fieldOr_of_field h.number _)).short

lemma writable_records {vs : List Value} (h : Forall₂ Tells vs issues)
    (hvs : ∀ v ∈ vs, Writable (d + 1) v) : ∀ i ∈ issues, Writable (d' + 2) i.record := by
  induction h with
  | nil => simp
  | cons hv _ ih =>
    obtain ⟨hwritable, hrest⟩ := forall_mem_cons.mp hvs
    exact forall_mem_cons.mpr ⟨hv.writable hwritable, ih hrest⟩

/-! ### The file -/

/-- The file of the issues can be written: its folder is there or can be made, and the file is no
directory. -/
structure Room (w : World) : Prop where
  home : w.files.node? (w.cwd ++ [".claude"]) = some .dir
  folder : ∀ n, w.files.node? (w.cwd ++ [".claude", "github-workflows"]) = some n → n = .dir
  file : w.files.node? (w.cwd ++ [".claude", "github-workflows", "active-issues.json"]) ≠ some .dir

/-- The folder of the file is there. -/
structure Furnished (w : World) : Prop extends Room w where
  made : w.files.node? (w.cwd ++ [".claude", "github-workflows"]) = some .dir

/-- Where the issues are kept. -/
def keptAt : String := ".claude/github-workflows/active-issues.json"

lemma toString_parent : environmentFile.parent.toString = ".claude/github-workflows" := by decide

lemma toString_kept : (environmentFile.parent / "active-issues.json").toString = keptAt := by decide

variable {w : World}

lemma Room.locate_folder (h : Room w) :
    w.files.locate w.cwd ".claude/github-workflows" =
      .ok (w.cwd ++ [".claude", "github-workflows"]) := by
  have hnames : (splitWhere (· == '/') ".claude/github-workflows".toList).map .ofList =
      [".claude", "github-workflows"] := by decide
  rw [Files.locate, if_neg (by decide), if_neg (by decide)]
  dsimp only
  rw [hnames, if_neg (by decide), Files.walk, if_neg (by decide)]
  simp [Files.walk, h.home, show ¬255 < "github-workflows".utf8ByteSize by decide]

lemma Furnished.locate_kept (h : Furnished w) :
    w.files.locate w.cwd keptAt =
      .ok (w.cwd ++ [".claude", "github-workflows", "active-issues.json"]) := by
  have hnames : (splitWhere (· == '/') keptAt.toList).map .ofList =
      [".claude", "github-workflows", "active-issues.json"] := by decide
  rw [Files.locate, if_neg (by decide), if_neg (by decide)]
  dsimp only
  rw [hnames, if_neg (by decide), Files.walk, if_neg (by decide)]
  simp [Files.walk, h.home, h.made, show ¬255 < "github-workflows".utf8ByteSize by decide,
    show ¬255 < "active-issues.json".utf8ByteSize by decide]

lemma Furnished.place_kept (h : Furnished w) :
    w.place keptAt = w.cwd ++ [".claude", "github-workflows", "active-issues.json"] :=
  (Files.locate_eq_aim h.locate_kept).symm

lemma Furnished.reaches (h : Furnished w) : w.Reaches keptAt :=
  ⟨by decide, by rw [h.place_kept, h.locate_kept]⟩

lemma Furnished.exec_cacheFile (h : Furnished w) :
    cacheFile.exec w = (.ok (environmentFile.parent / "active-issues.json"), w) := by
  have hstat : w.files.stat w.cwd environmentFile.parent.toString = .ok .dir := by
    rw [toString_parent, Files.stat, h.locate_folder]
    simp [bind, Except.bind, h.made]
  rw [cacheFile]
  exact Tool.exec_bind_ok (Tool.exec_makeDir_of_dir (by decide) hstat) _

lemma Room.exec_cacheFile (h : Room w) :
    ∃ w', cacheFile.exec w = (.ok (environmentFile.parent / "active-issues.json"), w') ∧
      Furnished w' := by
  rcases hfolder : w.files.node? (w.cwd ++ [".claude", "github-workflows"]) with _ | n
  · have hmkdir : w.files.mkdir w.cwd ".claude/github-workflows" =
        .ok (w.files.put (w.cwd ++ [".claude", "github-workflows"]) .dir) := by
      rw [Files.mkdir, h.locate_folder]
      simp [bind, Except.bind, hfolder, h.home]
    have hmake : (Tool.makeDir environmentFile.parent.toString true).exec w = (.ok (),
        { w with files := w.files.put (w.cwd ++ [".claude", "github-workflows"]) .dir }) := by
      rw [toString_parent, Tool.makeDir, Tool.exec_bind_ok (Tool.exec_get w), hmkdir]
      rfl
    have hnode := fun q => Files.node?_put (t := w.files)
      (p := w.cwd ++ [".claude", "github-workflows"]) (by simp) .dir q
    refine ⟨_, by rw [cacheFile]; exact Tool.exec_bind_ok hmake _, ⟨⟨?_, ?_, ?_⟩, ?_⟩⟩
    · simpa [hnode] using h.home
    · simp [hnode]
    · simpa [hnode] using h.file
    · simp [hnode]
  · obtain rfl := h.folder n hfolder
    exact ⟨w, Furnished.exec_cacheFile ⟨h, hfolder⟩, h, hfolder⟩

/-! ### What is fetched -/

/-- The question for the open issues. -/
def listing (filter : String) (value : Option String) : Argv :=
  "gh" :: (["issue", "list", "--state", "open", "--json",
    "number,title,state,labels,assignees,milestone,createdAt,updatedAt,url,body"] ++
      selection filter value)

section Fetching

variable {args : List String} {code : Int} {out err : String}

lemma exec_ghDocument_eq (h : w.respond w.calls ("gh" :: args) = .finished 0 out err)
    (hblank : trim out ≠ "") :
    (ghDocument args).exec w =
      (Tool.guarded (Tool.parseJson out) Fault.isJson fun e => do
        Tool.complain ("Error parsing JSON: " ++ e.message)
        return .null).exec { w with calls := w.calls ++ ["gh" :: args] } := by
  rw [ghDocument, Tool.exec_bind_ok (Tool.exec_run_finished h "None")]
  dsimp only
  rw [if_neg (by decide), if_neg (by simpa using hblank)]
  rfl

lemma exec_ghDocument_parsed (h : w.respond w.calls ("gh" :: args) = .finished 0 out err)
    (hblank : trim out ≠ "") {v : Value} (hv : parse out = .ok v) :
    (ghDocument args).exec w = (.ok v, { w with calls := w.calls ++ ["gh" :: args] }) := by
  rw [exec_ghDocument_eq h hblank, Tool.parseJson, hv]
  exact Tool.exec_guarded_ok (Tool.exec_lift _ _) _ _

lemma exec_ghDocument_failed (h : w.respond w.calls ("gh" :: args) = .finished code out err)
    (hcode : code ≠ 0) :
    ∃ w', (ghDocument args).exec w = (.ok .null, w') ∧ w'.files = w.files := by
  rw [ghDocument, Tool.exec_bind_ok (Tool.exec_run_finished h "None")]
  dsimp only
  rw [if_pos (by simpa using hcode)]
  exact ⟨_, rfl, rfl⟩

lemma exec_ghDocument_unreadable (h : w.respond w.calls ("gh" :: args) = .finished 0 out err)
    (hblank : trim out ≠ "") {e : Error} (he : parse out = .error e) :
    ∃ w', (ghDocument args).exec w =
      (if (Fault.json e).isJson then .ok .null else .error (.json e), w') ∧
      w'.files = w.files := by
  rw [exec_ghDocument_eq h hblank, Tool.parseJson, he, Tool.exec_guarded, Tool.exec_lift]
  dsimp only
  split_ifs <;> exact ⟨_, rfl, rfl⟩

end Fetching

lemma exec_runChecked (argv : Argv) (w : World) :
    ∃ r, (Tool.runChecked argv).exec w = (r, { w with calls := w.calls ++ [argv] }) ∧
      ∀ e, r = .error e → e.isExit = false := by
  rw [Tool.runChecked, Tool.run, Tool.exec_bind, Tool.exec_bind_ok (Tool.exec_call argv w)]
  cases w.respond w.calls argv with
  | finished code out err =>
    rw [Tool.exec_pure]
    dsimp only
    split_ifs
    · exact ⟨_, rfl, by rintro e ⟨⟩; rfl⟩
    · exact ⟨_, rfl, by rintro e ⟨⟩⟩
  | missing => exact ⟨_, rfl, by rintro e ⟨⟩; rfl⟩
  | timeout => exact ⟨_, rfl, by rintro e ⟨⟩; rfl⟩

lemma exec_repositoryName (w : World) :
    ∃ v w', repositoryName.exec w = (.ok v, w') ∧ w'.files = w.files ∧ w'.cwd = w.cwd ∧
      Writable (nestingLimit - 1) v := by
  have hunknown : Writable (nestingLimit - 1) (.str "unknown/unknown") := writable_str _
  obtain ⟨r, hr, hexit⟩ := exec_runChecked ["gh", "repo", "view", "--json", "nameWithOwner"] w
  rw [repositoryName, Tool.recover, Tool.exec_guarded, Tool.exec_bind, hr]
  cases r with
  | error e =>
    dsimp only
    rw [hexit e rfl]
    exact ⟨_, _, rfl, rfl, rfl, hunknown⟩
  | ok ended =>
    dsimp only
    rw [Tool.exec_bind, Tool.exec_lift, Tool.parseJson]
    cases hparse : parse ended.out with
    | error e => exact ⟨_, _, rfl, rfl, rfl, hunknown⟩
    | ok v =>
      dsimp only
      rw [Tool.exec_lift]
      cases hname : v.fieldOr "nameWithOwner" "unknown/unknown" with
      | ok name => exact ⟨_, _, rfl, rfl, rfl, (writable_of_parse hparse).fieldOr hunknown hname⟩
      | error e =>
        have hmissing : e = v.lacks "get" := by
          cases v <;> simp_all [fieldOr]
        subst hmissing
        exact ⟨_, _, rfl, rfl, rfl, hunknown⟩

/-! ### What is found -/

/-- The document that is kept. -/
def cache (now repository filter value : Value) (records : List Value) : Value :=
  .object [("lastSync", now), ("repository", repository), ("filter", filter),
    ("filterValue", value), ("issues", .list records)]

lemma truthy_cache (now repository filter value : Value) (records : List Value) :
    (cache now repository filter value records).truthy = true := rfl

lemma issuesOf_cache (now repository filter value : Value) (records : List Value) :
    issuesOf (cache now repository filter value records) = .ok (.list records) := by
  rw [issuesOf, cache, fieldOr_object]
  rfl

lemma writable_cache {now repository filter value : Value} (hnow : Writable (d + 1) now)
    (hrepository : Writable (d + 1) repository) (hfilter : Writable (d + 1) filter)
    (hvalue : Writable (d + 1) value) (hissues : ∀ i ∈ issues, Writable d i.record) :
    Writable (d + 2) (cache now repository filter value (issues.map Listed.record)) := by
  have hrecords : Writable (d + 1) (.list (issues.map Listed.record)) := .list fun x hx => by
    obtain ⟨i, hi, rfl⟩ := mem_map.mp hx
    exact hissues i hi
  refine .object (by simp) ?_
  simpa using ⟨hnow, hrepository, hfilter, hvalue, hrecords⟩

/-- The issues are kept. -/
def Keeps (w : World) (issues : List Listed) : Prop :=
  Furnished w ∧ ∃ c now repository filter value, w.file? keptAt = some c ∧
    c.Reads (cache now repository filter value (issues.map Listed.record))

lemma Keeps.exec_load (h : Keeps w issues) : ∃ now repository filter value,
      load.exec w = (.ok (cache now repository filter value (issues.map Listed.record)), w) := by
  obtain ⟨hfurnished, c, now, repository, filter, value, hc, text, htext, hv⟩ := h
  refine ⟨now, repository, filter, value, ?_⟩
  have hread : (Tool.readJson keptAt).exec w =
      (.ok (cache now repository filter value (issues.map Listed.record)), w) := by
    rw [Tool.readJson, Tool.exec_bind_ok (Tool.exec_readText_ok hfurnished.reaches hc htext),
      Tool.exec_lift, hv]
  rw [load, Tool.exec_bind_ok hfurnished.exec_cacheFile, toString_kept,
    Tool.exec_bind_ok (Tool.exec_pathExists_of_file? hfurnished.reaches hc)]
  exact Tool.exec_guarded_ok hread _ _

lemma field_record (i : Listed) : i.record.field "number" = .ok i.number := field_object rfl

lemma title_record (i : Listed) : i.record.field "title" = .ok i.title := field_object rfl

lemma labels_record (i : Listed) : i.record.field "labels" = .ok (.strings i.labels) :=
  field_object rfl

lemma preview_record (i : Listed) :
    i.record.field "body_preview" = .ok (.str (take (i.body.getD "") 500)) :=
  field_object rfl

/-- The first kept issue of a number is found, and `null` if there is none. -/
theorem Keeps.exec_find (h : Keeps w issues) (n : Int) :
    (find n).exec w =
      (.ok (((issues.find? fun i => i.number == n).map Listed.record).getD .null), w) := by
  obtain ⟨now, repository, filter, value, hload⟩ := h.exec_load
  let test : Value → Bool := fun r => (r.field "number").toOption.any (·.same n)
  have htest : test ∘ Listed.record = fun i => i.number == n := by
    funext i
    simp only [test, Function.comp_apply, field_record]
    rfl
  rw [find, Tool.exec_bind_ok hload, if_neg (by exact Bool.false_ne_true),
    Tool.exec_bind_ok (Tool.exec_lift_ok (issuesOf_cache _ _ _ _ _) w), Tool.exec_bind_ok
      (Tool.exec_lift (list _).parts w), Tool.exec_bind_ok (Tool.exec_forIn_find test ?_),
    find?_map, htest]
  · cases issues.find? fun i => i.number == n <;> rfl
  · intro r hr s
    obtain ⟨i, -, rfl⟩ := mem_map.mp hr
    have hsame : test i.record = (int i.number).same n := rfl
    rw [Tool.exec_bind_ok (Tool.exec_lift (i.record.field "number") w), hsame]
    split_ifs <;> rfl

/-! ### Fetching and finding -/

section Syncing

variable {filter : String} {value : Option String} {out err : String}
variable {issues : List Listed}

lemma mapFloats_cache (f : Float → Float) (now repository filter value : Value)
    (issues : List Listed) :
    (cache now repository filter value (issues.map Listed.record)).mapFloats f =
      cache (now.mapFloats f) (repository.mapFloats f) (filter.mapFloats f) (value.mapFloats f)
        (issues.map Listed.record) := by
  have hrecords : (issues.map Listed.record).map (mapFloats f) = issues.map Listed.record := by
    rw [map_map]
    exact map_congr_left fun i _ => mapFloats_record f i
  rw [cache, cache, mapFloats_object]
  simp only [map_cons, map_nil, mapFloats_list, hrecords]

lemma Furnished.exec_writeText (h : Furnished w) {text : String}
    {now repository filter value : Value}
    (hreads : (Content.text text).Reads
    (cache now repository filter value (issues.map Listed.record))) :
    ∃ w', (Tool.writeText keptAt text).exec w = (.ok (), w') ∧ Keeps w' issues := by
  have hplace := h.place_kept
  have hfree : w.files.node? (w.place keptAt) ≠ some .dir := by
    rw [hplace]
    exact h.file
  have hparent : w.files.node? (w.place keptAt).dropLast = some .dir := by
    rw [hplace, dropLast_append_of_ne_nil (by simp)]
    exact h.made
  obtain ⟨t, ht, hsets⟩ := Tool.exec_writeText_ok h.reaches hfree hparent text
  have hmade := hsets.grows.dirs _ h.made
  have hfurnished : Furnished { w with files := t } :=
    ⟨⟨hsets.grows.dirs _ h.home, fun n hn => Option.some.inj (hn.symm.trans hmade),
      hplace ▸ hsets.still_free⟩, hmade⟩
  refine ⟨_, ht, hfurnished, .text text, now, repository, filter, value, ?_, hreads⟩
  rw [World.file?, hfurnished.place_kept, ← hplace]
  exact hsets.here

lemma Keeps.complained (h : Keeps w issues) (err : String) : Keeps { w with err } issues :=
  ⟨⟨⟨h.1.home, h.1.folder, h.1.file⟩, h.1.made⟩, h.2⟩

lemma Room.exec_keep (h : Room w) (hissues : ∀ i ∈ issues, Writable (nestingLimit - 2) i.record)
    (now filter : String) (value : Option String) (message : Path → String) :
    ∃ w', (do
      let repository ← repositoryName
      let file ← cacheFile
      Tool.dumpJson file.toString
        (cache now repository filter (ofOption .str value) (issues.map Listed.record))
      Tool.complain (message file)
      return true : Tool Bool).exec w = (.ok true, w') ∧ Keeps w' issues := by
  obtain ⟨repository, w₁, hname, hfiles, hcwd, hrepository⟩ := exec_repositoryName w
  have hroom : Room w₁ := ⟨by rw [hfiles, hcwd, h.home], by rw [hfiles, hcwd]; exact h.folder,
    by rw [hfiles, hcwd]; exact h.file⟩
  obtain ⟨w₂, hfile, hfurnished⟩ := hroom.exec_cacheFile
  have hcache := writable_cache (writable_str now) hrepository (writable_str filter)
    (writable_ofOption value) hissues
  obtain ⟨text, hrender, hreads⟩ := hcache.exists_render w₂
  rw [mapFloats_cache] at hreads
  obtain ⟨w₃, hwrite, hkeeps⟩ := hfurnished.exec_writeText hreads
  replace hwrite := (Tool.exec_dumpJson hrender keptAt).trans hwrite
  rw [Tool.exec_bind_ok hname, Tool.exec_bind_ok hfile, toString_kept, Tool.exec_bind_ok hwrite]
  exact ⟨_, rfl, hkeeps.complained _⟩

/-- Once the listing is read, its issues are kept. -/
theorem exec_sync_listed {vs : List Value} (hroom : Room w)
    (hcall : w.respond w.calls (listing filter value) = .finished 0 out err)
    (hparse : parse out = .ok (.list vs)) (hissues : Forall₂ Tells vs issues) :
    ∃ w', (sync filter value).exec w = (.ok true, w') ∧ Keeps w' issues := by
  have hwritable : ∀ i ∈ issues, Writable (nestingLimit - 2) i.record :=
    writable_records hissues (writable_of_parse hparse).of_list
  obtain ⟨w₁, hsay, hw₁⟩ : ∃ w₁,
      (Tool.complain s!"Syncing issues (filter: {filter})...").exec w = (.ok (), w₁) ∧
      w₁ = { w with err := w₁.err } := ⟨_, rfl, rfl⟩
  have hlisted :=
    exec_ghDocument_parsed (w := w₁) (by rw [hw₁]; exact hcall) (trim_ne_of_parse hparse) hparse
  have hrecords : ∀ w' : World,
      (vs.mapM fun v => (liftM (recordOf v) : Tool Value)).exec w' =
        (.ok (issues.map Listed.record), w') := by
    refine fun w' => Tool.exec_mapM (forall₂_map_right_iff.mpr (hissues.imp fun v i h => ?_))
    rw [Tool.exec_lift, h.recordOf]
  have hroom₁ : Room { w₁ with calls := w₁.calls ++ [listing filter value] } := by
    rw [hw₁]
    exact ⟨hroom.home, hroom.folder, hroom.file⟩
  obtain ⟨w', hkeep, hkeeps⟩ := hroom₁.exec_keep hwritable _ filter value _
  refine ⟨w', ?_, hkeeps⟩
  rw [sync, Tool.exec_bind_ok hsay, Tool.exec_bind_ok hlisted, if_neg (by exact Bool.false_ne_true),
    Tool.exec_bind_ok (Tool.exec_lift (list vs).parts _), Tool.exec_bind_ok (hrecords _),
    Tool.exec_bind_ok (show Tool.nowUtc.exec _ = (.ok _, _) from rfl)]
  exact hkeep

lemma exec_sync_unlisted {r : Result Value} (hr : ∀ v, r = .ok v → v = .null)
    (h : ∀ err, ∃ w', (ghDocument (listing filter value).tail).exec { w with err } = (r, w') ∧
    w'.files = w.files) :
    ∃ w', (sync filter value).exec w = (r.map fun _ => false, w') ∧ w'.files = w.files := by
  obtain ⟨err, hsay⟩ : ∃ err, (Tool.complain s!"Syncing issues (filter: {filter})...").exec w =
      (.ok (), { w with err }) := ⟨_, rfl⟩
  obtain ⟨w', hw', hfiles⟩ := h err
  rw [sync, Tool.exec_bind_ok hsay]
  cases r with
  | error e => exact ⟨w', Tool.exec_bind_error hw' _, hfiles⟩
  | ok v =>
    obtain rfl := hr v rfl
    exact ⟨w', Tool.exec_bind_ok hw' _, hfiles⟩

end Syncing

lemma find?_number (h : (issues.map Listed.number).Nodup) (hi : i ∈ issues) :
    issues.find? (fun j => j.number == i.number) = some i := by
  induction issues with
  | nil => simp at hi
  | cons j issues ih =>
    obtain ⟨hj, hdistinct⟩ := nodup_cons.mp h
    rw [find?_cons]
    rcases mem_cons.mp hi with rfl | hi
    · simp
    · have hne : (j.number == i.number) = false := by
        simpa using fun heq : j.number = i.number => hj (heq ▸ mem_map_of_mem hi)
      rw [hne]
      exact ih hdistinct hi

/-- If issues are listed, they are kept, and a number finds its issue, or nothing if none has it.
If the listing fails or is no document, no file changes. -/
theorem sync_keeps_listing {filter : String} {value : Option String} {code : Int} {out err : String}
    (hcall : w.respond w.calls (listing filter value) = .finished code out err) :
    (∀ vs issues, Room w → code = 0 → parse out = .ok (.list vs) → List.Forall₂ Tells vs issues →
      (issues.map Listed.number).Nodup →
      ∃ w', (sync filter value).exec w = (.ok true, w') ∧
        (∀ i ∈ issues, (find i.number).exec w' = (.ok i.record, w')) ∧
        ∀ n ∉ issues.map Listed.number, (find n).exec w' = (.ok .null, w')) ∧
    (code ≠ 0 → ∃ w', (sync filter value).exec w = (.ok false, w') ∧ w'.files = w.files) ∧
    (∀ e, code = 0 → trim out ≠ "" → parse out = .error e →
      ∃ w', w'.files = w.files ∧ (sync filter value).exec w = match e.cause with
        | .tooManyDigits _ | .tooDeep _ => (.error (.json e), w')
        | _ => (.ok false, w')) := by
  refine ⟨fun vs issues hroom hcode hparse htells hdistinct => ?_, fun hcode =>
    ?_, fun e hcode hblank he => ?_⟩
  · obtain ⟨w', hsync, hkeeps⟩ := exec_sync_listed hroom (hcode ▸ hcall) hparse htells
    refine ⟨w', hsync, fun i hi => ?_, fun n hn => ?_⟩
    · rw [hkeeps.exec_find, find?_number hdistinct hi]
      rfl
    · have hfound : issues.find? (fun j => j.number == n) = none := by
        simpa using hn
      rw [hkeeps.exec_find, hfound]
      rfl
  · exact exec_sync_unlisted (r := .ok .null) (by rintro v ⟨⟩; rfl) fun err =>
      exec_ghDocument_failed hcall hcode
  · subst hcode
    obtain ⟨w', hsync, hfiles⟩ :=
      exec_sync_unlisted (by intro v hv; split_ifs at hv; exact (Except.ok.inj hv).symm)
      fun err => exec_ghDocument_unreadable (w := { w with err }) hcall hblank he
    refine ⟨w', hfiles, hsync.trans ?_⟩
    obtain ⟨cause, pos, line, column⟩ := e
    cases cause <;> rfl

/-! ### Two issues, and a folder that is none -/

def wish : Listed where
  number := 7
  title := "Sort"
  state := "OPEN"
  labels := ["bug", "scope:ui"]
  assignees := []
  milestone := some "v1"
  createdAt := "2025-01-02"
  updatedAt := "2025-01-03"
  url := "u/7"
  body := none

def crash : Listed where
  number := -3
  title := ""
  state := "OPEN"
  labels := []
  assignees := ["ann"]
  milestone := none
  createdAt := "2025-01-04"
  updatedAt := "2025-01-05"
  url := "u/3"
  body := some "It stops."

/-- Names as the service lists them. -/
def named (key : String) (names : List String) : Value :=
  .list (names.map fun name => .object [(key, .str name)])

/-- An issue as the service tells it. -/
def told (i : Listed) : Value :=
  .object [("number", .int i.number), ("title", .str i.title), ("state", .str i.state),
    ("labels", named "name" i.labels), ("assignees", named "login" i.assignees),
    ("milestone", i.milestone.elim .null fun title => .object [("title", .str title)]),
    ("createdAt", .str i.createdAt), ("updatedAt", .str i.updatedAt), ("url", .str i.url),
    ("body", .ofOption .str i.body)]

lemma hasNames_named {list key : String} {names : List String}
    (h : v.field list = .ok (named key names)) :
    HasNames v list key names := by
  refine ⟨_, h, forall₂_map_left_iff.mpr (forall₂_same.mpr fun name _ => ?_)⟩
  rw [fieldOr_object, lookup_cons, beq_self_eq_true]
  rfl

lemma tells_told (i : Listed) : Tells (told i) i where
  number := field_object rfl
  title := field_object rfl
  state := field_object rfl
  labels := hasNames_named (field_object rfl)
  assignees := hasNames_named (field_object rfl)
  milestone := by
    cases h : i.milestone with
    | none => exact Or.inl ⟨field_object (by rw [h]; rfl), rfl⟩
    | some title => exact Or.inr ⟨_, field_object (by rw [h]; rfl), rfl⟩
  createdAt := field_object rfl
  updatedAt := field_object rfl
  url := field_object rfl
  body := field_object rfl

lemma plain_told (i : Listed) (d : Nat) : Plain (d + 3) (told i) := by
  have hnamed : ∀ key names, Plain (d + 2) (named key names) :=
    fun key names => .list fun x hx => by
    obtain ⟨name, -, rfl⟩ := mem_map.mp hx
    exact .object (by simp) (by simpa using .str name)
  have hbody : Plain (d + 2) (.ofOption .str i.body) := by
    cases i.body
    · exact .null
    · exact .str _
  have hmilestone : Plain (d + 2)
      (i.milestone.elim .null fun title => .object [("title", .str title)]) := by
    cases i.milestone
    · exact .null
    · exact .object (by simp) (by simpa using .str _)
  refine .object (by simp) ?_
  simpa using ⟨.int _, .str _, .str _, hnamed _ _, hnamed _ _, hmilestone, .str _, .str _,
    .str _, hbody⟩

def listingText : String :=
  "[\x7b\"number\": 7, \"title\": \"Sort\", \"state\": \"OPEN\", \"labels\": "
    ++ "[\x7b\"name\": \"bug\"\x7d, \x7b\"name\": \"scope:ui\"\x7d], \"assignees\": [], "
    ++ "\"milestone\": \x7b\"title\": \"v1\"\x7d, "
    ++ "\"createdAt\": \"2025-01-02\", \"updatedAt\": \"2025-01-03\", \"url\": \"u/7\", "
    ++ "\"body\": null\x7d, \x7b\"number\": -3, \"title\": \"\", \"state\": \"OPEN\", "
    ++ "\"labels\": [], "
    ++ "\"assignees\": [\x7b\"login\": \"ann\"\x7d], \"milestone\": null, "
    ++ "\"createdAt\": \"2025-01-04\", \"updatedAt\": \"2025-01-05\", \"url\": \"u/3\", "
    ++ "\"body\": \"It stops.\"\x7d]"

def hosted : World where
  files := { entries := [([".claude"], .dir)] }
  respond := fun _ argv => if argv.take 3 = ["gh", "issue", "list"] then
    .finished 0 listingText "" else .missing

lemma parse_listingText : parse listingText = .ok (.list [told wish, told crash]) := by
  have hplain : Plain nestingLimit (.list [told wish, told crash]) :=
    .list (by simpa using ⟨plain_told wish 981, plain_told crash 981⟩)
  have hrender : render (Tool.jsonLayout { oneLineJson := true } .indented)
      (.list [told wish, told crash]) =
      .ok listingText := by decide +kernel
  exact parse_render (sane_jsonLayout _) hplain hrender

lemma room_hosted : Room hosted := ⟨by decide, by decide, by decide⟩

/-- Two issues are kept and found by their numbers. -/
theorem sync_keeps_two : ∃ w', (sync "labeled" (some "bug")).exec hosted = (.ok true, w') ∧
    (find 7).exec w' = (.ok wish.record, w') ∧ (find (-3)).exec w' = (.ok crash.record, w') ∧
    (find 8).exec w' = (.ok .null, w') := by
  have hcall : hosted.respond hosted.calls (listing "labeled" (some "bug")) =
      .finished 0 listingText "" := by
    have hlist : (listing "labeled" (some "bug")).take 3 = ["gh", "issue", "list"] := by decide
    exact if_pos (e := Reply.missing) hlist
  obtain ⟨w', hsync, hlisted, hothers⟩ :=
    (sync_keeps_listing hcall).1 _ [wish, crash] room_hosted rfl parse_listingText
    (.cons (tells_told _) (.cons (tells_told _) .nil)) (by decide)
  exact ⟨w', hsync, hlisted wish (by simp), hlisted crash (by simp), hothers 8 (by decide)⟩

def blocked : World where
  files :=
    { entries :=
      [([".claude"], .dir), ([".claude", "github-workflows"], .file (.text "notes") false)] }
  respond := fun _ _ => .finished 0 "[]" ""

/-- Nothing is answered where a file stands in the place of the folder. -/
theorem sync_blocked : blocked.files.node? [".claude"] = some .dir ∧
    blocked.respond blocked.calls (listing "assigned" none) = .finished 0 "[]" "" ∧
    parse "[]" = .ok (.list []) ∧
    ((sync "assigned" none).exec blocked).1.toOption = none := by
  refine ⟨by decide, rfl, rfl, ?_⟩
  decide +kernel

end Issue

end Workbench
