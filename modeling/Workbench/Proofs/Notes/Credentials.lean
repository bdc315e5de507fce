import Workbench.Notes.Connection
import Workbench.Notes.Setup
import Workbench.Notes.Writer
import Workbench.Proofs.Json.Printable
import Workbench.Proofs.Notes.Lookups
import Workbench.Proofs.World.Loops

/-!
# Credentials

The automatic setup saves the address of the notes service and, for a token in the environment, a
reference to it.  The reader and the writer of notes resolve the reference; the survey of the ways
to a graph and the test of the connection send it as it stands.  All settings are read in one go, so
one about the service that cannot be used hides those that come after it (`graph_path_loaded_iff`).
-/

namespace Workbench.Notes

open Tool Text Value Setup

variable {α β : Type} {t : Tool α} {f : α → Tool β} {w w' v : World} {c : Configuration}

/-! ### Requests -/

/-- A tool that sends no request. -/
def Silent (t : Tool α) : Prop := ∀ w, (t.exec w).2.requests = w.requests

lemma requests_bind (hf : ∀ a, Silent (f a)) (w : World) :
    ((t >>= f).exec w).2.requests = (t.exec w).2.requests := by
  rw [exec_bind]
  rcases t.exec w with ⟨e | a, w'⟩
  · rfl
  · exact hf a w'

lemma requests_guarded {handler : Fault → Tool α} (hh : ∀ e, Silent (handler e))
    (handles : Fault → Bool) (w : World) :
    ((guarded t handles handler).exec w).2.requests = (t.exec w).2.requests := by
  rw [exec_guarded]
  rcases t.exec w with ⟨e | a, w'⟩
  · dsimp only
    split_ifs
    exacts [hh e w', rfl]
  · rfl

/-- Two silent parts are silent together. -/
lemma Silent.bind (ht : Silent t) (hf : ∀ a, Silent (f a)) : Silent (t >>= f) := fun w =>
  (requests_bind hf w).trans (ht w)

lemma Silent.guarded {handler : Fault → Tool α} {handles : Fault → Bool} (ht : Silent t)
    (hh : ∀ e, Silent (handler e)) :
    Silent (guarded t handles handler) := fun w => (requests_guarded hh handles w).trans (ht w)

lemma silent_pure (a : α) : Silent (pure a : Tool α) := fun _ => rfl

lemma silent_lift (x : Result α) : Silent (liftM x : Tool α) := fun w => by rw [exec_lift]

lemma silent_pathExists (raw : String) : Silent (pathExists raw) := fun w => by
  obtain ⟨r, hr⟩ := exec_pathExists raw w
  rw [hr]

lemma silent_run (argv : Argv) (limit : String) : Silent (run argv limit) := fun w => by
  obtain ⟨r, hr⟩ := exec_run_calls argv limit w
  rw [hr]

lemma silent_checkProgram : Silent Backend.checkProgram := by
  refine Silent.bind (fun _ => rfl) fun found => ?_
  split <;> exact ((silent_run _ _).bind fun _ => silent_pure _).guarded fun _ => silent_pure _

lemma silent_checkServer (given : Value) : Silent (Backend.checkServer given) := by
  have hdir : Silent (Backend.serverDir given) := by
    cases given with
    | null => exact fun _ => rfl
    | _ => exact (silent_lift _).bind fun _ => silent_pure _
  refine hdir.bind fun dir => (silent_pathExists _).bind fun present => ?_
  split_ifs
  · exact silent_pure _
  · refine (silent_pathExists _).bind fun built => ?_
    split_ifs
    · exact silent_pure _
    · exact (silent_pathExists _).bind fun source => silent_pure _

/-- The requests that a tool sends. -/
def sent (t : Tool α) (w : World) : List Request := (t.exec w).2.requests.drop w.requests.length

/-- A request goes where the settings lead to, with the token that they hold. -/
def Bears (a : Access) (r : Request) : Prop :=
  r.url = a.target ∧ ("Authorization", s!"Bearer {a.token.display}") ∈ r.headers

/-- The question which graph is open, if it can be sent. -/
def Access.inquiry (a : Access) : List Request :=
  if hasScheme a.target then [a.posting graphQuestion] else []

lemma requests_send (a : Access) (w : World) :
    ((send a.url a.token graphQuestion).exec w).2.requests = w.requests ++ a.inquiry := by
  rw [Access.inquiry]
  by_cases h : hasScheme a.target = true
  · rw [Access.send_eq h, exec_fetch, if_pos h, asking]
  · rw [send, ← Access.target, if_pos (by simp [h]), if_neg h, List.append_nil]
    rfl

/-! ### Settings -/

/-- The address that the environment gives. -/
def ownUrl (w : World) : String := (w.environment.lookup "LOGSEQ_API_URL").getD defaultUrl

/-- The token that the environment gives. -/
def ownToken (w : World) : String := (w.environment.lookup "LOGSEQ_API_TOKEN").getD ""

/-- What the environment tells of the service, with a directory for the command-line program. -/
def own (w : World) (path : Value) : Access := ⟨.str (ownUrl w), .str (ownToken w), path⟩

lemma exec_environmentUrl (w : World) : environmentUrl.exec w = (.ok (ownUrl w), w) := rfl

/-- What the automatic setup keeps of the environment. -/
structure Keeps (c : Configuration) (w : World) : Prop where
  url : c.url = ownUrl w
  token : c.token = if ownToken w = "" then "" else tokenReference

lemma keeps_of_automatic (h : automatic.exec w = (.ok c, w')) : Keeps c w := by
  have hsystem : ∃ s, systemName.exec w = (.ok s, w) := ⟨_, rfl⟩
  obtain ⟨system, hsystem⟩ := hsystem
  have htoken : (env "LOGSEQ_API_TOKEN" "").exec w = (.ok (ownToken w), w) := rfl
  rw [automatic, exec_bind_ok hsystem, exec_bind_ok (exec_environmentUrl w),
    exec_bind_ok htoken] at h
  obtain ⟨graphPath, w₁, -, h⟩ := exists_of_exec_bind h
  obtain ⟨server, w₂, -, h⟩ := exists_of_exec_bind h
  obtain rfl := Except.ok.inj (Prod.mk.inj h).1
  exact ⟨rfl, by simp⟩

/-- A configuration was saved where the tools look for their settings. -/
def Saved (c : Configuration) (w : World) : Prop :=
  ∃ text, Json.render (jsonLayout w .indented) c.value = .ok text ∧
    ∀ dir ∈ [w.files.pathTo w.cwd, w.base.parent], w.Reaches (settingsBelow dir).toString ∧
    w.file? (settingsBelow dir).toString = some (.text text)

lemma plain_value (c : Configuration) (d : Nat) : Json.Plain (d + 2) c.value := by
  have hgraph : Json.Plain d (ofOption str c.defaultGraph) := by
    cases c.defaultGraph
    exacts [.null, .str _]
  have hpair {k l : String} (hkl : [k, l].Nodup) {a b : Value} (ha : Json.Plain d a)
    (hb : Json.Plain d b) :
      Json.Plain (d + 1) (.object [(k, a), (l, b)]) := .object hkl (by simp [ha, hb])
  have hpreferences : Json.Plain (d + 1) (.object [("defaultGraph", ofOption str c.defaultGraph),
      ("confirmWrites", .bool c.confirmWrites),
      ("backupBeforeWrite", .bool c.backupBeforeWrite)]) :=
    .object (by simp) (by simpa [hgraph] using ⟨.bool _, .bool _⟩)
  refine .object (by simp) ?_
  simp only [List.forall_mem_cons, List.not_mem_nil, false_imp_iff, implies_true, and_true]
  exact ⟨.str _, hpair (by decide) (.str _) (.str _), hpair (by decide) (.str _) (.bool _),
    hpair (by decide) (.bool _) (.str _), hpreferences, .bool _, .str _⟩

lemma Saved.reads (h : Saved c w) {dir : Path}
    (hdir : dir ∈ [w.files.pathTo w.cwd, w.base.parent]) :
    (pathExists (settingsBelow dir).toString).exec w = (.ok true, w) ∧
      (readJson (settingsBelow dir).toString).exec w = (.ok c.value, w) := by
  obtain ⟨text, htext, hfiles⟩ := h
  obtain ⟨hreaches, hfile⟩ := hfiles dir hdir
  obtain ⟨s, hdecode, hparse⟩ :=
    Content.reads_render (Json.sane_jsonLayout w) (plain_value c _) htext
  refine ⟨exec_pathExists_of_file? hreaches hfile, ?_⟩
  rw [readJson, exec_bind_ok (exec_readText_ok hreaches hfile hdecode), exec_lift, hparse]

/-! ### The reader and the writer -/

lemma Keeps.complete (h : Keeps c v) (path : Value) (environment : String → String) (graph : Bool) :
    ∃ path', (own v path).complete environment c.value graph = own v path' := by
  have hhttp : c.value.fieldOr "http" (.map []) =
      .ok (.object [("url", .str c.url), ("token", .str c.token)]) := rfl
  have hurl : (own v path).takeUrl (.object [("url", .str c.url), ("token", .str c.token)]) =
      .ok (own v path) := by
    have hfield : (object [("url", .str c.url), ("token", .str c.token)]).fieldOr "url"
        (.str (ownUrl v)) =
        .ok (.str (ownUrl v)) := by
      rw [← h.url]
      rfl
    rw [Access.takeUrl, own, hfield]
    split_ifs <;> rfl
  have htoken : (own v path).takeToken environment
      (.object [("url", .str c.url), ("token", .str c.token)]) =
      .ok (own v path) := by
    have hfield : (object [("url", .str c.url), ("token", .str c.token)]).fieldOr "token"
        (.str "") = .ok (.str c.token) := rfl
    rw [Access.takeToken, own, hfield, h.token]
    by_cases hempty : ownToken v = ""
    · simp only [hempty]
      rfl
    · rw [if_pos (by simpa [truthy] using hempty)]
      rfl
  rw [Access.complete, hhttp]
  cases graph with
  | false => exact ⟨path, by simp [untilFault, hurl, htoken]⟩
  | true =>
    have hgraph : ∃ path', (own v path).takeGraph c.value = .ok (own v path') := by
      by_cases hpath : path.truthy = true
      · exact ⟨path, by simp [Access.takeGraph, own, hpath]; rfl⟩
      · exact ⟨.str c.graphPath, by simp [Access.takeGraph, own, hpath]; rfl⟩
    obtain ⟨path', hpath'⟩ := hgraph
    exact ⟨path', by simp [untilFault, hurl, htoken, hpath']⟩

/-- The file of settings of the working directory. -/
def settingsFile (w : World) : String := (settingsBelow (w.files.pathTo w.cwd)).toString

/-- What arguments and environment tell before the settings are read. -/
def Access.start (w : World) (url token path : Value) : Access :=
  ⟨given url (ownUrl w), given token (ownToken w),
   given path ((w.environment.lookup "LOGSEQ_GRAPH_PATH").getD "")⟩

lemma exec_find_eq {settings : Value}
    (hexists : (pathExists (settingsFile v)).exec v = (.ok true, v))
    (hread : (readJson (settingsFile v)).exec v = (.ok settings, v)) (url token path : Value)
    (graph : Bool) :
    (Access.find url token path graph).exec v =
      (.ok ((Access.start v url token path).complete
        (fun k => (v.environment.lookup k).getD "") settings graph), v) := by
  have hgraph : (env "LOGSEQ_GRAPH_PATH" "").exec v =
      (.ok ((v.environment.lookup "LOGSEQ_GRAPH_PATH").getD ""), v) := rfl
  have htoken : environmentToken?.exec v = (.ok (v.environment.lookup "LOGSEQ_API_TOKEN"), v) := rfl
  have hfile : localSettings.exec v = (.ok (settingsBelow (v.files.pathTo v.cwd)), v) := rfl
  have hrecover : (recover (some <$> readJson (settingsFile v)) none).exec v =
      (.ok (some settings), v) :=
    exec_guarded_ok (by rw [exec_map, hread]; rfl) _ _
  rw [Access.find, exec_bind_ok hgraph, exec_bind_ok (exec_environmentUrl v), exec_bind_ok htoken,
    exec_bind_ok hfile, ← settingsFile, exec_bind_ok hexists, if_neg (by decide),
    exec_bind_ok (exec_get v), exec_bind_ok hrecover]
  rfl

lemma exec_find (hkeeps : Keeps c v) (hsaved : Saved c v) (graph : Bool) :
    ∃ path, (Access.find .null .null .null graph).exec v = (.ok (own v path), v) := by
  obtain ⟨hexists, hread⟩ := hsaved.reads (.head _)
  obtain ⟨path, hpath⟩ :=
    hkeeps.complete (.str ((v.environment.lookup "LOGSEQ_GRAPH_PATH").getD ""))
    (fun k => (v.environment.lookup k).getD "") graph
  exact ⟨path, by rw [exec_find_eq hexists hread, ← hpath]; rfl⟩

/-! ### The test and the survey -/

/-- What the automatic setup leaves to a tool that takes the settings as they stand. -/
def kept (w : World) : Access :=
  ⟨.str (ownUrl w), .str (if ownToken w = "" then "" else tokenReference), .null⟩

lemma Keeps.exec_credentials (h : Keeps c v) (noToken : Value) :
    (Backend.credentials c.value noToken).exec v = (.ok ((kept v).url, (kept v).token), v) := by
  rw [kept, ← h.url, ← h.token]
  rfl

lemma requests_tryWeb (a : Access) (verbose : Bool) (w : World) :
    ((Connection.tryWeb a.url a.token verbose).exec w).2.requests = w.requests ++ a.inquiry := by
  have hnote (s : String) : ∃ w₁,
      (Connection.note verbose s).exec w = (.ok (), w₁) ∧ w₁.requests = w.requests := by
    cases verbose <;> exact ⟨_, rfl, rfl⟩
  obtain ⟨w₁, hw₁, hrequests⟩ := hnote s!"Testing HTTP API at {a.url.display}..."
  rw [Connection.tryWeb, exec_bind_ok hw₁, requests_guarded fun _ => silent_pure _, requests_bind,
    requests_send, hrequests]
  refine fun answer => (silent_lift _).bind fun reply => ?_
  split_ifs
  · exact Silent.bind (fun w => by rw [exec_renderJson]) fun _ =>
      Silent.bind (fun _ => rfl) fun _ => silent_pure _
  · exact silent_pure _

lemma requests_tryOne (h : Keeps c v) (verbose : Bool) :
    ((Connection.tryOne c.value verbose "http").exec v).2.requests =
      v.requests ++ if (kept v).token.truthy then (kept v).inquiry else [] := by
  have hone : Connection.tryOne c.value verbose "http" = (do
      let p ← Backend.credentials c.value ""
      if p.2.truthy then Connection.tryWeb p.1 p.2 verbose
      else return Connection.failure "No API token configured") := rfl
  rw [hone, exec_bind_ok (h.exec_credentials "")]
  dsimp only
  split_ifs
  · exact requests_tryWeb (kept v) verbose v
  · simp

lemma requests_checkWeb (a : Access) (w : World) :
    ((Backend.checkWeb a.url a.token).exec w).2.requests = w.requests ∨ a.token.truthy = true ∧
      ((Backend.checkWeb a.url a.token).exec w).2.requests = w.requests ++ a.inquiry := by
  rw [Backend.checkWeb, requests_guarded fun _ => silent_pure _, exec_bind, exec_lift]
  rcases a.url.textFor "startswith" with e | url
  · exact .inl rfl
  dsimp only
  rw [exec_bind, exec_lift]
  rcases hostAndPort (Backend.authority url) with e | ⟨host, port⟩
  · exact .inl rfl
  dsimp only
  rw [exec_bind, listens, exec_bind, exec_lift]
  rcases wholeOf port with e | n
  · exact .inl rfl
  dsimp only
  rw [Tool.listens, exec_bind_ok (exec_get w), exec_pure]
  dsimp only
  split_ifs with hlistens htoken
  · exact .inl rfl
  · refine .inr ⟨htoken, ?_⟩
    rw [Backend.authenticate, requests_guarded, requests_bind fun _ => silent_pure _]
    · dsimp only
      rw [requests_send]
    · intro e
      split <;> exact silent_pure _
  · exact .inl rfl

lemma requests_survey (h : Keeps c v) (hsaved : Saved c v) :
    (Backend.survey.exec v).2.requests = v.requests ∨ (kept v).token.truthy = true ∧
      (Backend.survey.exec v).2.requests = v.requests ++ (kept v).inquiry := by
  obtain ⟨hexists, hread⟩ := hsaved.reads (.tail _ (.head _))
  have hfile : installedSettings.exec v = (.ok (settingsBelow v.base.parent), v) := rfl
  have hsettings : (recover (readJson (settingsBelow v.base.parent).toString) (.map [])).exec v =
      (.ok c.value, v) :=
    exec_guarded_ok hread _ _
  have hdir : (liftM (c.value.pathOr ["mcp", "serverPath"] .null) : Tool Value).exec v =
      (.ok (.str c.serverPath), v) := rfl
  rw [Backend.survey, exec_bind_ok hfile, exec_bind_ok hexists]
  rw [if_pos rfl, exec_bind_ok hsettings, exec_bind_ok (h.exec_credentials _)]
  dsimp only
  rw [exec_bind_ok hdir, requests_bind fun _ => silent_checkProgram.bind fun _ =>
    (silent_checkServer _).bind fun _ => silent_pure _]
  exact requests_checkWeb (kept v) v

/-! ### Agreement -/

/-- The requests of the test of the connection and of the survey. -/
def probes (c : Configuration) (verbose : Bool) (w : World) : List Request :=
  sent (Connection.tryOne c.value verbose "http") w ++ sent Backend.survey w

lemma target_kept (v : World) : (kept v).target = (own v .null).target := rfl

lemma mem_inquiry_kept {r : Request} :
    r ∈ (kept v).inquiry ↔ hasScheme (own v .null).target = true ∧
      r = (kept v).posting graphQuestion := by
  rw [Access.inquiry, target_kept]
  split_ifs with h <;> simp [h]

lemma truthy_kept : (kept v).token.truthy = true ↔ ownToken v ≠ "" := by
  rw [kept]
  split_ifs with h
  · simp [h, truthy]
  · exact ⟨fun _ => h, fun _ => rfl⟩

lemma of_mem_probes (hkeeps : Keeps c v) (hsaved : Saved c v) {verbose : Bool} {r : Request}
    (hr : r ∈ probes c verbose v) :
    ownToken v ≠ "" ∧ r ∈ (kept v).inquiry := by
  rw [← truthy_kept]
  rcases List.mem_append.mp hr with hr | hr
  · rw [sent, requests_tryOne hkeeps, List.drop_left] at hr
    split_ifs at hr with h
    · exact ⟨h, hr⟩
    · cases hr
  · rw [sent] at hr
    rcases requests_survey hkeeps hsaved with h | ⟨h, hsurvey⟩
    · simp [h] at hr
    · rw [hsurvey, List.drop_left] at hr
      exact ⟨h, hr⟩

lemma bears_posting_iff (hne : ownToken v ≠ "") :
    Bears (own v .null) ((kept v).posting graphQuestion) ↔ ownToken v = tokenReference := by
  rw [Bears, Access.posting, target_kept]
  simp [own, kept, hne, display, toString]

/-- After an automatic setup, in the same environment, all tools ask the same service.  The reader
and the writer use the token of the environment; what the test and the survey send is that token if
and only if there is none or it is spelled like the reference to it. -/
theorem credentials_agree_iff (hsetup : automatic.exec w = (.ok c, w'))
    (henv : v.environment = w.environment) (hsaved : Saved c v) (verbose : Bool) :
    (∀ graph, ∃ path, (Access.find .null .null .null graph).exec v = (.ok (own v path), v)) ∧
    (∀ backend client v', (Client.connect backend .null .null .null).exec v = (.ok client, v') →
      ∃ path, client.toAccess = own v path) ∧
    (∀ writer v', (Writer.access .null .null).exec v = (.ok writer, v') →
      ∃ path, writer = own v path) ∧
    (∀ r ∈ probes c verbose v, r.url = (own v .null).target) ∧
    ((∀ r ∈ probes c verbose v, Bears (own v .null) r) ↔
      (hasScheme (own v .null).target = true → ownToken v = "" ∨ ownToken v = tokenReference)) := by
  have hkeeps : Keeps c v := by
    obtain ⟨hurl, htoken⟩ := keeps_of_automatic hsetup
    rw [ownUrl, ← henv] at hurl
    rw [ownToken, ← henv] at htoken
    exact ⟨hurl, htoken⟩
  have hfind := exec_find hkeeps hsaved
  refine ⟨hfind, fun backend client v' hclient => ?_, fun writer v' hwriter => ?_, fun r hr =>
    ?_, fun h hscheme => ?_, fun h r hr => ?_⟩
  · obtain ⟨path, hpath⟩ := hfind true
    refine ⟨path, ?_⟩
    rw [Client.connect, exec_bind_ok hpath] at hclient
    split_ifs at hclient
    · exact (Except.ok.inj (Prod.mk.inj hclient).1) ▸ rfl
    obtain ⟨listening, v₁, -, hclient⟩ := exists_of_exec_bind hclient
    split_ifs at hclient
    · exact (Except.ok.inj (Prod.mk.inj hclient).1) ▸ rfl
    obtain ⟨runs, v₂, -, hclient⟩ := exists_of_exec_bind hclient
    split_ifs at hclient
    · exact (Except.ok.inj (Prod.mk.inj hclient).1) ▸ rfl
    · cases hclient
  · obtain ⟨path, hpath⟩ := hfind false
    rw [Writer.access, exec_bind_ok hpath] at hwriter
    split_ifs at hwriter
    · cases hwriter
    · exact ⟨path, (Except.ok.inj (Prod.mk.inj hwriter).1).symm⟩
  · rw [(mem_inquiry_kept.mp (of_mem_probes hkeeps hsaved hr).2).2, Access.posting, target_kept]
  · by_contra hneither
    obtain ⟨hne, hother⟩ := not_or.mp hneither
    have hsent : (kept v).posting graphQuestion ∈ probes c verbose v := by
      rw [probes, sent, requests_tryOne hkeeps, List.drop_left, if_pos (truthy_kept.mpr hne)]
      exact List.mem_append_left _ (mem_inquiry_kept.mpr ⟨hscheme, rfl⟩)
    exact hother ((bears_posting_iff hne).mp (h _ hsent))
  · obtain ⟨hne, hr⟩ := of_mem_probes hkeeps hsaved hr
    obtain ⟨hscheme, rfl⟩ := mem_inquiry_kept.mp hr
    exact (bears_posting_iff hne).mpr ((h hscheme).resolve_left hne)

/-- A world with a token and the given text for the settings. -/
def configured (text : String) : World where
  environment := [("LOGSEQ_API_TOKEN", "secret")]
  base := ⟨true, ["tools"]⟩
  files := { entries := [([".claude"], .dir), ([".claude", "logseq-expert"], .dir),
    ([".claude", "logseq-expert", "env.json"], .file (.text text) false)] }

/-- A probe of the saved settings does not bear what the tools themselves would use. -/
theorem configured_disagrees :
    ∃ c w' text, automatic.exec (configured "") = (.ok c, w') ∧ Saved c (configured text) ∧
    ¬ ∀ r ∈ probes c true (configured text), Bears (own (configured text) .null) r := by
  have hsetup : (automatic.exec (configured "")).1.toOption =
      some { token := tokenReference, system := "linux" } := by
    decide +kernel
  have hrender : ∃ text, Json.render (jsonLayout {} .indented)
      (Configuration.value { token := tokenReference, system := "linux" }) = .ok text := ⟨_, rfl⟩
  obtain ⟨text, htext⟩ := hrender
  have hsaved : Saved { token := tokenReference, system := "linux" } (configured text) := by
    refine ⟨text, htext, fun dir hdir => ?_⟩
    obtain rfl : dir = ⟨true, []⟩ := by simpa [configured, Files.pathTo, Path.parent] using hdir
    exact ⟨⟨by decide, by rfl⟩, by rfl⟩
  have hsetup := exec_eq_of_toOption hsetup
  refine ⟨_, _, text, hsetup, hsaved, ?_⟩
  rw [(credentials_agree_iff hsetup (v := configured text) rfl hsaved true).2.2.2.2]
  exact (by decide +kernel : ¬ (hasScheme (own (configured "") .null).target = true →
    ownToken (configured "") = "" ∨ ownToken (configured "") = tokenReference))

/-! ### The settings of the command-line program -/

/-- The address of the service is settled, or the section of the service can be asked for it. -/
def Access.AsksUrl (a : Access) (http : Value) : Prop :=
  (a.url.truthy = true ∧ a.url.same defaultUrl = false) ∨ ∃ es, http = .map es

/-- The token is settled, or the section of the service can be asked for it and does not name one
that is no text. -/
def Access.AsksToken (a : Access) (http : Value) : Prop :=
  a.token.truthy = true ∨ ∃ es, http = .map es ∧ ∀ x, lookup "token" es = some x → ∃ s, x = .str s

lemma Access.takeUrl_cases (a : Access) (http : Value) :
    (a.AsksUrl http ∧ ∃ u, a.takeUrl http = .ok { a with url := u }) ∨
      (¬ a.AsksUrl http ∧ ∃ e, a.takeUrl http = .error e) := by
  rw [AsksUrl, takeUrl]
  by_cases hsettled : a.url.truthy = true ∧ a.url.same defaultUrl = false
  · exact .inl ⟨.inl hsettled, a.url, by rw [if_pos (by simp [hsettled])]; rfl⟩
  · rw [if_neg (by simpa using hsettled)]
    cases http with
    | map es => exact .inl ⟨.inr ⟨es, rfl⟩, _, rfl⟩
    | _ => exact .inr ⟨by simp [hsettled], _, rfl⟩

lemma Access.takeToken_cases (a : Access) (environment : String → String) (http : Value) :
    (a.AsksToken http ∧ ∃ t, a.takeToken environment http = .ok { a with token := t }) ∨
      (¬ a.AsksToken http ∧ ∃ e, a.takeToken environment http = .error e) := by
  rw [AsksToken, takeToken]
  by_cases hsettled : a.token.truthy = true
  · exact .inl ⟨.inl hsettled, a.token, by rw [if_pos hsettled]; rfl⟩
  · rw [if_neg hsettled]
    cases http with
    | map es =>
      rw [fieldOr]
      cases hlookup : lookup "token" es with
      | none => exact .inl ⟨.inr ⟨es, rfl, by simp [hlookup]⟩, _, rfl⟩
      | some x =>
        cases x with
        | str s => exact .inl ⟨.inr ⟨es, rfl, by simp [hlookup]⟩, _, rfl⟩
        | _ => exact .inr ⟨by simp [hsettled, hlookup], _, rfl⟩
    | _ => exact .inr ⟨by simp [hsettled], _, rfl⟩

/-- The section of settings about the service; an absent one counts as empty. -/
def webSection (settings : Value) : Value := (settings.get? "http").getD (.map [])

lemma fieldOr_webSection {settings x : Value} {k : String} (h : settings.field k = .ok x) :
    settings.fieldOr "http" (.map []) = .ok (webSection settings) := by
  cases settings with
  | map es => rfl
  | _ => cases h

lemma Access.takeGraph_eq {settings cli : Value} {g : String}
    (hcli : settings.field "cli" = .ok cli) (hgraph : cli.field "graphPath" = .ok (.str g))
    {a : Access} (ha : a.graphPath.truthy = false) :
    a.takeGraph settings = .ok { a with graphPath := .str g } := by
  rw [takeGraph, fieldOr_of_field hcli]
  dsimp only [bind, Except.bind]
  rw [if_neg (by simp [ha]), fieldOr_of_field hgraph]
  rfl

/-- The directory is taken from the settings if the questions before it can be asked. -/
lemma Access.graphPath_complete {settings cli : Value} {g : String}
    (hcli : settings.field "cli" = .ok cli) (hgraph : cli.field "graphPath" = .ok (.str g))
    {a : Access} (ha : a.graphPath.truthy = false)
    (environment : String → String) :
    (a.AsksUrl (webSection settings) ∧ a.AsksToken (webSection settings) →
      (a.complete environment settings true).graphPath = .str g) ∧
    (¬ (a.AsksUrl (webSection settings) ∧ a.AsksToken (webSection settings)) →
      (a.complete environment settings true).graphPath = a.graphPath) := by
  rw [complete, fieldOr_webSection hcli]
  dsimp only
  rw [if_pos rfl, List.cons_append, List.cons_append, List.nil_append, untilFault]
  obtain ⟨hurl, u, hu⟩ | ⟨hurl, e, he⟩ := a.takeUrl_cases (webSection settings)
  · rw [hu]
    dsimp only
    rw [untilFault]
    have htoken := Access.takeToken_cases { a with url := u } environment (webSection settings)
    obtain ⟨htoken, t, ht⟩ | ⟨htoken, e, he⟩ := htoken
    · rw [ht]
      dsimp only
      have hlast := takeGraph_eq (a := ⟨u, t, a.graphPath⟩) hcli hgraph ha
      rw [untilFault, hlast]
      exact ⟨fun _ => rfl, fun h => absurd ⟨hurl, htoken⟩ h⟩
    · rw [he]
      exact ⟨fun h => absurd h.2 htoken, fun _ => rfl⟩
  · rw [he]
    exact ⟨fun h => absurd h.1 hurl, fun _ => rfl⟩

/-- The directory for the command-line program is what the settings say, or none.  The settings are
heeded if the address and the token are settled or the section of the service can be asked for
them. -/
theorem graph_path_loaded_iff {content : Content} {settings cli : Value} {g : String}
    (hreaches : w.Reaches (settingsFile w)) (hfile : w.file? (settingsFile w) = some content)
    (hreads : content.Reads settings)
    (hcli : settings.field "cli" = .ok cli) (hgraph : cli.field "graphPath" = .ok (.str g))
    (hvariable : (w.environment.lookup "LOGSEQ_GRAPH_PATH").getD "" = "") {backend path : Value}
    (hbackend : backend.truthy = true) (hpath : path.truthy = false) (url token : Value) :
    ∃ client, (Client.connect backend url token path).exec w = (.ok client, w) ∧
      (client.graphPath = .str g ∨ client.graphPath = .str "") ∧
      (client.graphPath = .str g ↔ g = "" ∨
        (Access.start w url token path).AsksUrl (webSection settings) ∧
        (Access.start w url token path).AsksToken (webSection settings)) := by
  obtain ⟨text, hdecode, hparse⟩ := hreads
  have hexists := exec_pathExists_of_file? hreaches hfile
  have hread : (readJson (settingsFile w)).exec w = (.ok settings, w) := by
    rw [readJson, exec_bind_ok (exec_readText_ok hreaches hfile hdecode), exec_lift, hparse]
  have hempty : (Access.start w url token path).graphPath = .str "" := by
    simp [Access.start, given, hpath, hvariable]
  obtain ⟨hheeded, hpassed⟩ :=
    Access.graphPath_complete hcli hgraph (a := Access.start w url token path)
    (by rw [hempty]; rfl) fun k => (w.environment.lookup k).getD ""
  rw [hempty] at hpassed
  refine ⟨⟨_, backend.display⟩, ?_, (em _).imp hheeded hpassed, fun h => ?_, ?_⟩
  · rw [Client.connect, exec_bind_ok (exec_find_eq hexists hread url token path true),
      if_pos hbackend]
    rfl
  · by_contra hneither
    obtain ⟨hg, hnot⟩ := not_or.mp hneither
    exact hg (Value.str.inj (h.symm.trans (hpassed hnot)))
  · rintro (rfl | hasks)
    · exact (em _).elim hheeded hpassed
    · exact hheeded hasks

/-- Settings with nothing in the section for the service. -/
def emptySection : Value := .object [("http", .null), ("cli", .object [("graphPath", .str "/g")])]

/-- A world without a token and with these settings. -/
def unsettled : World where
  files := { entries := [([".claude"], .dir), ([".claude", "logseq-expert"], .dir),
    ([".claude", "logseq-expert", "env.json"], .file (.text
      "\x7b\n  \"http\": null,\n  \"cli\": \x7b\n    \"graphPath\": \"/g\"\n  \x7d\n\x7d") false)] }

/-- An empty section of the settings hides the path in the section behind it. -/
theorem empty_section_hides_graph_path :
    ∃ client, (Client.connect (.str "cli") .null .null .null).exec unsettled =
    (.ok client, unsettled) ∧ client.graphPath ≠ .str "/g" := by
  have hplain : Json.Plain Json.nestingLimit emptySection := by
    refine .object (by decide) (List.forall_mem_cons.mpr ⟨.null, List.forall_mem_singleton.mpr ?_⟩)
    exact .object (by decide) (List.forall_mem_singleton.mpr (.str _))
  have htext : Json.render (jsonLayout {} .indented) emptySection = .ok
      "\x7b\n  \"http\": null,\n  \"cli\": \x7b\n    \"graphPath\": \"/g\"\n  \x7d\n\x7d" := by
    decide +kernel
  obtain ⟨client, hclient, -, hhidden⟩ :=
    graph_path_loaded_iff (w := unsettled) ⟨by decide, by rfl⟩ (by rfl)
    (Content.reads_render (Json.sane_jsonLayout {}) hplain htext) (by rfl) (by rfl) (by rfl)
    (rfl : (Value.str "cli").truthy = true) (rfl : Value.null.truthy = false) .null .null
  refine ⟨client, hclient, fun h => ?_⟩
  obtain hg | ⟨⟨-, hother⟩ | ⟨es, hes⟩, -⟩ := hhidden.mp h
  · exact absurd hg (by decide)
  · exact absurd hother (by decide)
  · cases hes

end Workbench.Notes
