import Workbench.Notes.Client
import Workbench.Proofs.Text.Split
import Workbench.Proofs.Value.Entries
import Workbench.Proofs.World.Calls

/-!
# Questions about one page or block

By the web service a question names what is asked for.  By the command-line program it does not:
each query declares an input variable, and the command gives it no value.  The query of a search has
the text in it, and `search_text_is_literal_iff` says for which texts it is read as one string.
-/

namespace Workbench.Notes

open Tool Text Value

/-! ### Requests to the notes service -/

namespace Access

variable (a : Access) (operation : String) (args : List Value)

/-- The address that requests go to. -/
def target : String := unwrapped s!"{a.url.display}/api"

/-- A request with a body. -/
def posting (body : Value) : Request :=
  { url := a.target, method := "POST"
    headers :=
      [("Content-type", "application/json"), ("Authorization", s!"Bearer {a.token.display}")],
      body }

/-- The request for an operation. -/
def request : Request := a.posting (.object [("method", .str operation), ("args", .list args)])

variable {a} in
lemma send_eq (h : hasScheme a.target = true) (body : Value) :
    send a.url a.token body = fetch (a.posting body) := by
  rw [send, ← Access.target, if_neg (by simp [h])]
  rfl

lemma request_inj {args' : List Value} (h : a.request operation args = a.request operation args') :
    args = args' := by
  have hbody := congrArg Request.body h
  simpa [request, posting] using object_injective hbody

end Access

/-- What is made of a reply. -/
def heard (refusal : ServiceCause) : WebReply → Result Value
  | .answered answer => resultIn refusal answer.body
  | .refused code reason => .error (serviceFault (.status code reason))
  | .unreachable reason => .error (serviceFault (.unreachable reason))

/-- The reply that a request gets. -/
def nextReply (w : World) : WebReply := w.web.headD (.unreachable "exhausted")

/-- The world after a request. -/
def asking (w : World) (r : Request) : World :=
  { w with web := w.web.tail, requests := w.requests ++ [r] }

lemma exec_fetch (r : Request) (w : World) : (fetch r).exec w =
    (match nextReply w with
      | .answered answer => .ok answer
      | .refused code reason => .error (.status code reason)
      | .unreachable reason => .error (.unreachable reason), asking w r) := by
  rcases hw : w.web with _ | ⟨_ | _ | _, rest⟩
    <;> simp [fetch, nextReply, asking, hw, exec_bind] <;> rfl

/-- A call of the service is one request, whatever becomes of it. -/
theorem Access.exec_api {a : Access} (h : hasScheme a.target = true) (refusal : ServiceCause)
    (operation : String) (args : List Value) (w : World) :
    exec (a.api refusal operation args) w =
      (heard refusal (nextReply w), asking w (a.request operation args)) := by
  rw [Access.api, Access.send_eq h, exec_bind, exec_guarded, exec_fetch]
  rcases nextReply w with answer | ⟨code, reason⟩ | reason
  · exact exec_lift _ _
  · rfl
  · rfl

end Workbench.Notes

namespace Workbench.Notes.Client

open Tool Text Value

/-- What is looked up in a graph. -/
inductive Lookup where
  | page (withBlocks : Bool)
  | block (withChildren : Value)
  | backlinks

/-- What a line of a query holds stands in the query. -/
lemma contains_queryText (indent : Nat) {lines : List String} {l s : String}
    (hs : contains l s = true) (hl : l ∈ lines) :
    contains (queryText indent lines) s = true := by
  rw [contains_iff] at hs ⊢
  have hline : l.toList <:+: (times " " indent ++ s!"{l}\n").toList := by
    rw [String.toList_append, String.toList_append]
    exact List.infix_append' _ _ _
  have hlines := List.infix_of_mem_flatten
    (List.mem_map_of_mem (f := String.toList)
      (List.mem_map_of_mem (f := fun l => times " " indent ++ s!"{l}\n") hl))
  rw [queryText, String.toList_append, String.toList_append, String.toList_join]
  exact hs.trans (hline.trans (hlines.trans (List.infix_append _ _ _)))

namespace Lookup

/-- A client looks something up. -/
def ask (c : Client) : Lookup → Value → Tool Value
  | page withBlocks, title => c.page title withBlocks
  | block withChildren, id => c.block id withChildren
  | backlinks, title => c.backlinks title

/-- The query of a lookup and the input variable that it declares. -/
def query : Lookup → String × String
  | page _ => (lookupQuery "p" "title" "title", "title")
  | block _ => (lookupQuery "b" "uuid" "uuid", "uuid")
  | backlinks => (linksQuery, "page-title")

/-- A query declares the name that its lookup asks for. -/
theorem query_declares (l : Lookup) : contains l.query.1 s!":in $ ?{l.query.2}" = true := by
  cases l with
  | page _ =>
    exact contains_queryText 16 (l := " :in $ ?title") (s := ":in $ ?title") (by decide) (by decide)
  | block _ =>
    exact contains_queryText 16 (l := " :in $ ?uuid") (s := ":in $ ?uuid") (by decide) (by decide)
  | backlinks =>
    exact contains_queryText 12 (l := " :in $ ?page-title") (s := ":in $ ?page-title")
      (by decide) (by decide)

/-- The operation that a lookup calls. -/
def operation : Lookup → String
  | page _ => "logseq.Editor.getPage"
  | block _ => "logseq.Editor.getBlock"
  | backlinks => "logseq.DB.datascriptQuery"

/-- The arguments that a lookup passes. -/
def args : Lookup → Value → List Value
  | page _, title => [title]
  | block withChildren, id => [id, .object [("includeChildren", withChildren)]]
  | backlinks, title => [linksQuery, .list [title]]

lemma args_injective (l : Lookup) : Function.Injective l.args := by
  intro a b h
  cases l <;> simpa [args] using h

end Lookup

variable {α β : Type} {c : Client} {w : World}

/-! ### By the web service -/

/-- A tool that takes back no request. -/
def Grows (t : Tool α) : Prop := ∀ w, w.requests <+: (t.exec w).2.requests

lemma grows_lift (x : Result α) : Grows (liftM x : Tool α) := by
  intro w
  simp only [exec_lift, List.prefix_rfl]

/-- Requests are only added. -/
lemma Grows.bind {t : Tool α} {f : α → Tool β} (ht : Grows t) (hf : ∀ a, Grows (f a)) :
    Grows (t >>= f) := by
  intro w
  have h := ht w
  rw [exec_bind]
  rcases ht' : t.exec w with ⟨e | a, w'⟩ <;> rw [ht'] at h
  · exact h
  · exact h.trans (hf a w')

lemma exec_call (htoken : c.token.truthy = true) (hurl : hasScheme c.target = true)
    (operation : String) (args : List Value) (w : World) :
    (c.call operation args).exec w =
      (heard .query (nextReply w), asking w (c.request operation args)) := by
  rw [call, if_neg (by simp [htoken])]
  exact Access.exec_api hurl .query operation args w

section Web

variable (htoken : c.token.truthy = true) (hurl : hasScheme c.target = true)
include htoken hurl

lemma grows_call (operation : String) (args : List Value) :
    Grows (c.call operation args) := fun w => by
  rw [exec_call htoken hurl]
  exact List.prefix_append _ _

lemma request_first {f : Value → Tool α} (hf : ∀ v, Grows (f v)) (operation : String)
    (args : List Value) (w : World) :
    w.requests ++ [c.request operation args] <+:
      ((c.call operation args >>= f).exec w).2.requests := by
  rw [exec_bind, exec_call htoken hurl]
  rcases heard .query (nextReply w) with e | v
  · exact List.prefix_rfl
  · exact hf v (asking w _)

/-- The first request of a lookup names what is asked for. -/
lemma request_lookup (hweb : c.byWeb = true) (l : Lookup) (a : Value) (w : World) :
    w.requests ++ [c.request l.operation (l.args a)] <+: ((l.ask c a).exec w).2.requests := by
  cases l with
  | page withBlocks =>
    rw [Lookup.ask, page, if_neg (by simp [hweb])]
    refine request_first htoken hurl (fun found => ?_) _ _ w
    split_ifs
    · exact (grows_call htoken hurl _ _).bind fun _ => grows_lift _
    · exact grows_lift (.ok found)
  | block withChildren =>
    rw [Lookup.ask, block, if_pos hweb, exec_call htoken hurl]
    exact List.prefix_rfl
  | backlinks =>
    rw [Lookup.ask, backlinks, query, if_pos hweb, bind_assoc]
    exact request_first htoken hurl (fun rows => (grows_lift (.ok _)).bind fun _ =>
      (grows_lift _).bind fun _ => grows_lift (.ok _)) _ _ w

end Web

/-! ### By the command-line program -/

/-- The call of the program. -/
def command (query : String) (words : List String) : Argv :=
  ["logseq", "query", query] ++ words ++ ["--format", "json"]

lemma calls_ask {words : List String} (hwords : c.graphWords = .ok words)
    (query : String) (w : World) :
    ((c.ask (.str query)).exec w).2.calls = w.calls ++ [command query words] := by
  have hask : c.ask (.str query) = guarded (do
      let r ← run (command query words) "60"
      if r.code != 0 then throw (.service .query s!"CLI error: {r.err}")
      parseJson r.out) (fun _ => true) fun e => throw (programFault e) := by
    rw [Client.ask, hwords]
    rfl
  obtain ⟨r, hr⟩ := exec_run_calls (command query words) "60" w
  rw [hask, exec_guarded, exec_bind, hr]
  rcases r with e | r
  · rfl
  · by_cases hcode : r.code = 0
    · cases hparse : parseJson r.out <;> simp [hcode, hparse]
    · simp [hcode]

namespace Lookup

/-- What a lookup makes of the rows. -/
def read : Lookup → Value → Result Value
  | page _, rows => firstRow rows
  | block _, rows => firstRow rows
  | backlinks, rows => do return .list (← singles (if rows.truthy then rows else .list []))

/-- What is asked for does not reach the program. -/
lemma ask_of_not_byWeb (hcli : c.byWeb = false) (l : Lookup) (a : Value) :
    l.ask c a = c.ask (.str l.query.1) >>= fun rows => liftM (l.read rows) := by
  cases l with
  | page => rw [ask, Client.page, if_pos (by simp [hcli])]; rfl
  | block => rw [ask, Client.block, if_neg (by simp [hcli])]; rfl
  | backlinks =>
    rw [ask, Client.backlinks, Client.query, if_neg (by simp [hcli]), bind_assoc]
    refine congrArg _ (funext fun rows => ?_)
    rw [pure_bind, read]
    cases singles (if rows.truthy then rows else .list []) <;> rfl

end Lookup

/-- What was asked: the commands and the requests. -/
def asked (t : Tool α) (w : World) : List Argv × List Request :=
  ((t.exec w).2.calls, (t.exec w).2.requests)

/-- Lookups of different things ask different questions by the web service.  By the command-line
program all of them give the same command, with a query that declares an input and no value for it,
and so they find the same. -/
theorem lookups_by_backend (c : Client) (l : Lookup) (w : World) :
    (c.byWeb = true → c.token.truthy = true → hasScheme c.target = true →
      ∀ a b, a ≠ b → asked (l.ask c a) w ≠ asked (l.ask c b) w) ∧
    (c.byWeb = false → ∀ a b, (l.ask c a).exec w = (l.ask c b).exec w ∧
      ∀ words, c.graphWords = .ok words →
        (asked (l.ask c a) w).1 = w.calls ++ [command l.query.1 words] ∧
          contains l.query.1 s!":in $ ?{l.query.2}" = true) := by
  refine ⟨fun hweb htoken hurl a b hne heq => hne (l.args_injective ?_), fun hcli a b =>
    ⟨?_, fun words hwords => ?_⟩⟩
  · have ha := request_lookup htoken hurl hweb l a w
    have hb := request_lookup htoken hurl hweb l b w
    have hrequests : ((l.ask c a).exec w).2.requests = ((l.ask c b).exec w).2.requests :=
      congrArg Prod.snd heq
    rw [← hrequests] at hb
    have hsame := (List.prefix_of_prefix_length_le ha hb (by simp)).eq_of_length (by simp)
    exact c.request_inj l.operation _ (by simpa using hsame)
  · rw [l.ask_of_not_byWeb hcli, l.ask_of_not_byWeb hcli]
  · refine ⟨?_, l.query_declares⟩
    rw [asked, l.ask_of_not_byWeb hcli, exec_bind, ← calls_ask hwords l.query.1 w]
    rcases (c.ask (.str l.query.1)).exec w with ⟨e | rows, w'⟩
    · rfl
    · dsimp only
      rw [exec_lift]

def reader (backend : String) : Client :=
  { url := defaultUrl, token := .str "secret", graphPath := .str "/notes", backend }

/-- Two pages are told apart over the network, but not by the program. -/
theorem lookups_of_two_pages :
    asked ((Lookup.page true).ask (reader "http") "A") {} ≠
      asked ((Lookup.page true).ask (reader "http") "B") {} ∧
    ((Lookup.page true).ask (reader "cli") "A").exec {} =
      ((Lookup.page true).ask (reader "cli") "B").exec {} ∧
    (asked ((Lookup.page true).ask (reader "cli") "A") {}).1 =
      [command (lookupQuery "p" "title" "title") ["--graph", "/notes"]] := by
  have hweb := (lookups_by_backend (reader "http") (.page true) {}).1 rfl rfl (by decide +kernel)
  have hprogram := (lookups_by_backend (reader "cli") (.page true) {}).2 rfl "A" "B"
  exact ⟨hweb "A" "B" (by simp), hprogram.1, (hprogram.2 _ rfl).1⟩

/-! ### Texts in queries -/

/-- What a string literal denotes, given what is between its quotes: a backslash stands for nothing
by itself, but gives the next character, also a quote, a meaning of its own. -/
inductive Denotes (escaped : Char → Char) : Chars → Chars → Prop
  | nil : Denotes escaped [] []
  | plain {x : Char} {body text : Chars} (hquote : x ≠ '"') (hslash : x ≠ '\\')
    (h : Denotes escaped body text) :
    Denotes escaped (x :: body) (x :: text)
  | escape {x : Char} {body text : Chars} (h : Denotes escaped body text) :
    Denotes escaped ('\\' :: x :: body) (escaped x :: text)

variable {escaped : Char → Char} {body text : Chars}

lemma Denotes.length_le (h : Denotes escaped body text) : text.length ≤ body.length := by
  induction h with
  | nil => rfl
  | plain _ _ _ ih => exact Nat.succ_le_succ ih
  | escape _ ih => exact Nat.succ_le_succ (Nat.le_succ_of_le ih)

/-- Each escape takes two characters for one. -/
lemma Denotes.eq_of_length_eq (h : Denotes escaped body text)
    (hlength : body.length = text.length) :
    body = text ∧ '"' ∉ text ∧ '\\' ∉ text := by
  induction h with
  | nil => simp
  | plain hquote hslash _ ih =>
    obtain ⟨rfl, hquotes, hslashes⟩ := ih (Nat.succ.inj hlength)
    exact ⟨rfl, by simp [hquotes, hquote.symm], by simp [hslashes, hslash.symm]⟩
  | escape h _ =>
    have hle := h.length_le
    simp only [List.length_cons] at hlength
    omega

lemma denotes_self (hquotes : '"' ∉ text) (hslashes : '\\' ∉ text) : Denotes escaped text text := by
  induction text with
  | nil => exact .nil
  | cons x text ih =>
    simp only [List.mem_cons, not_or] at hquotes hslashes
    exact .plain (Ne.symm hquotes.1) (Ne.symm hslashes.1) (ih hquotes.2 hslashes.2)

/-- The text begins with a literal for `s`, and the clause and the query end directly behind it. -/
def Holds (escaped : Char → Char) (s text : Chars) : Prop :=
  ∃ body rest, text = '"' :: (body ++ '"' :: rest) ∧ Denotes escaped body s ∧ ")]]".toList <+: rest

lemma holds_iff {s tail : Chars} (htail : '"' ∉ tail) (hend : ")]]".toList <+: tail) :
    Holds escaped s ('"' :: (s ++ '"' :: tail)) ↔ '"' ∉ s ∧ '\\' ∉ s := by
  constructor
  · rintro ⟨body, rest, htext, hbody, -⟩
    -- no quote follows the one behind the text, so the literal ends there or before
    have hshort : body.length ≤ s.length := by
      rcases List.append_eq_append_iff.mp
        (List.cons.inj htext).2 with ⟨_ | ⟨x, more⟩, rfl, hrest⟩ | ⟨more, rfl, -⟩
      · simp
      · have hmore : tail = more ++ '"' :: rest := (List.cons.inj hrest).2
        simp [hmore] at htail
      · simp
    exact (hbody.eq_of_length_eq (Nat.le_antisymm hshort hbody.length_le)).2
  · rintro ⟨hquotes, hslashes⟩
    exact ⟨s, tail, rfl, denotes_self hquotes hslashes, hend⟩

/-- What follows the first place of a part in a text. -/
def following (text part : String) : Option String :=
  (find? text part).map fun i => drop text (i + part.length)

lemma notWithin_of_tails {part u : Chars}
    (h : ∀ t ∈ u.tails, t ≠ [] → ¬ part <+: t ++ part) (s : Chars) :
    NotWithin part u (part ++ s) := by
  intro t ht hsuffix hpart
  refine h t ((List.mem_tails t u).mpr hsuffix) ht
    (List.prefix_of_prefix_length_le hpart ⟨s, by simp⟩ ?_)
  simp

lemma following_append {lead part : String} (hne : part ≠ "")
    (h : ∀ t ∈ lead.toList.tails, t ≠ [] → ¬ part.toList <+: t ++ part.toList) (tail : String) :
    following (lead ++ (part ++ tail)) part = some tail := by
  rw [following, find?_append hne (by simpa using notWithin_of_tails h tail.toList),
    Option.map_some, drop]
  have htext : (lead ++ (part ++ tail)).toList = (lead ++ part).toList ++ tail.toList := by simp
  have hlength : lead.length + part.length = (lead ++ part).toList.length := by
    simp [String.length_toList]
  rw [htext, hlength, List.drop_left, String.ofList_toList]

def beforeText : String := "clojure.string/includes? ?title "

/-- The lines before the text, and its own line up to the function. -/
def searchLead : String :=
  "\n" ++ String.join ([blockShape, " :where", " [?b :block/title ?title]"].map fun l =>
    times " " 12 ++ (l ++ "\n")) ++
    times " " 12 ++ " [("

def searchTail : String := ")]]\n        "

lemma searchQuery_eq (s : String) :
    searchQuery s = searchLead ++ (beforeText ++ ("\"" ++ s ++ "\"" ++ searchTail)) := by
  have hopen : " [(clojure.string/includes? ?title \"" = " [(" ++ (beforeText ++ "\"") := by decide
  have hclose : "\")]]" ++ ("\n" ++ times " " 8) = "\"" ++ searchTail := by decide
  have hquery : searchQuery s = "\n" ++
      String.join (([blockShape, " :where", " [?b :block/title ?title]"] ++
      [" [(clojure.string/includes? ?title \"" ++ s ++ "\")]]"]).map fun l =>
        times " " 12 ++ (l ++ "\n")) ++ times " " 8 := rfl
  rw [hquery, hopen, searchLead, List.map_append, String.join_append, List.map_singleton]
  simp only [String.join_cons, String.join_nil, String.append_empty, String.append_assoc, hclose]

/-- In the query the searched text stands between quotes as it is given. -/
theorem following_searchQuery (s : String) :
    following (searchQuery s) beforeText = some ("\"" ++ s ++ "\"" ++ searchTail) := by
  rw [searchQuery_eq]
  exact following_append (by decide) (by decide +kernel) _

/-! ### The second question of a search -/

lemma world_bind {α β : Type} {t : Tool α} {f : α → Tool β}
    (hf : ∀ a w, ((f a).exec w).2 = w) (w : World) :
    ((t >>= f).exec w).2 = (t.exec w).2 := by
  rw [exec_bind]
  rcases t.exec w with ⟨e | a, w'⟩
  · rfl
  · exact hf a w'

/-- The question that is left when there is no answer to the first one. -/
def searchAgain (c : Client) (s : String) (limit : Value) : Tool Value := do
  upTo limit (← singles (← c.query (.str (searchQuery s)) .null))

lemma world_searchAgain (s : String) (limit : Value) (w : World) :
    ((searchAgain c s limit).exec w).2 = ((c.query (.str (searchQuery s)) .null).exec w).2 := by
  refine world_bind (fun rows w => ?_) w
  rw [world_bind fun found w => by rw [exec_lift], exec_lift]

lemma calls_search {words : List String} (hcli : c.byWeb = false)
    (hwords : c.graphWords = .ok words) (s : String) (limit : Value) (w : World) :
    (asked (c.search s limit) w).1 = w.calls ++ [command (searchQuery s) words] := by
  have hsearch : c.search s limit = searchAgain c s limit := by
    rw [search, if_neg (by simp [hcli])]
    rfl
  rw [asked, hsearch, world_searchAgain, query, if_neg (by simp [hcli]), world_bind fun rows w =>
    rfl, calls_ask hwords]

lemma requests_search (hweb : c.byWeb = true) (htoken : c.token.truthy = true)
    (hurl : hasScheme c.target = true) (s : String) (limit : Value) (w : World) {e : Fault}
    (hfails : (heard .query (nextReply w) >>= cut limit) = .error e)
    (hexit : e.isExit = false) : (asked (c.search s limit) w).2 = w.requests ++
      [c.request "logseq.App.search" [.str s],
        c.request "logseq.DB.datascriptQuery" [.str (searchQuery s)]] := by
  have hfirst :
      (recover (do return some (← cut limit (← c.call "logseq.App.search" [.str s]))) none).exec w =
      (.ok none, asking w (c.request "logseq.App.search" [.str s])) := by
    rw [recover, exec_guarded, exec_bind, exec_call htoken hurl]
    rcases hheard : heard .query (nextReply w) with e' | found
    · rw [hheard] at hfails
      obtain rfl := Except.error.inj hfails
      simp [hexit]
    · rw [hheard] at hfails
      have hcut : cut limit found = .error e := hfails
      dsimp only
      rw [exec_bind, exec_lift, hcut]
      simp [hexit]
  rw [asked, search, if_pos hweb, exec_bind_ok hfirst]
  show ((searchAgain c s limit).exec _).2.requests = _
  rw [world_searchAgain, query, if_pos hweb, world_bind fun rows w => rfl]
  show ((c.call "logseq.DB.datascriptQuery" [.str (searchQuery s)]).exec _).2.requests = _
  rw [exec_call htoken hurl]
  simp [asking]

/-- Without an answer of the service a search asks with a query that has its text between quotes as
it is.  The literal is read as that text, whatever the escapes mean, just if the text has neither a
quote nor a backslash. -/
theorem search_text_is_literal_iff (c : Client) (s : String) (limit : Value)
    (escaped : Char → Char) (w : World) :
    (c.byWeb = false → ∀ words, c.graphWords = .ok words →
      (asked (c.search s limit) w).1 = w.calls ++ [command (searchQuery s) words]) ∧
    (c.byWeb = true → c.token.truthy = true → hasScheme c.target = true →
      ∀ e, (heard .query (nextReply w) >>= cut limit) = .error e → e.isExit = false →
        (asked (c.search s limit) w).2 = w.requests ++
          [c.request "logseq.App.search" [.str s],
           c.request "logseq.DB.datascriptQuery" [.str (searchQuery s)]]) ∧
    ∃ t, following (searchQuery s) "clojure.string/includes? ?title " = some t ∧
      (Holds escaped s.toList t.toList ↔ '"' ∉ s.toList ∧ '\\' ∉ s.toList) := by
  refine ⟨fun hcli words hwords => calls_search hcli hwords s limit w,
    fun hweb htoken hurl e hfails hexit => requests_search hweb htoken hurl s limit w hfails hexit,
    _, following_searchQuery s, ?_⟩
  have htext : ("\"" ++ s ++ "\"" ++ searchTail).toList =
      '"' :: (s.toList ++ '"' :: searchTail.toList) := by simp
  rw [htext]
  exact holds_iff (by decide) ⟨"\n        ".toList, by decide⟩

/-- A quote in the searched text ends the text in the query. -/
theorem search_for_quote :
    (asked ((reader "cli").search "a\"b" (.int 50)) {}).1 =
      [command (searchQuery "a\"b") ["--graph", "/notes"]] ∧
    (asked ((reader "http").search "a\"b" (.int 50)) {}).2 =
      [(reader "http").request "logseq.App.search" [.str "a\"b"],
        (reader "http").request "logseq.DB.datascriptQuery" [.str (searchQuery "a\"b")]] ∧
    ∃ t, following (searchQuery "a\"b") "clojure.string/includes? ?title " = some t ∧
      ¬ Holds id "a\"b".toList t.toList := by
  obtain ⟨hprogram, -, -⟩ := search_text_is_literal_iff (reader "cli") "a\"b" (.int 50) id {}
  obtain ⟨-, hweb, t, ht, hholds⟩ :=
    search_text_is_literal_iff (reader "http") "a\"b" (.int 50) id {}
  refine ⟨hprogram rfl _ rfl, hweb rfl rfl (by decide +kernel) _ rfl rfl, t, ht, fun hliteral => ?_⟩
  exact (hholds.mp hliteral).1 (by decide)

end Workbench.Notes.Client
