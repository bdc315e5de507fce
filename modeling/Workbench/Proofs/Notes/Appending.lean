import Mathlib.Data.List.Forall2
import Mathlib.Data.List.Nodup
import Mathlib.Logic.Function.Basic
import Workbench.Notes.Writer

/-!
# Appending notes

Texts that are appended to pages of a graph stand at their ends, in the order in which they were
appended.  A page that is created with a text holds it if it gets a first block.
-/

open List

namespace Workbench.Notes

open Value Writer

variable {σ α β : Type} {api : Api σ}

lemma Dialog.run_bind_ok {d : Dialog σ α} {s s' : σ} {a : α} (h : d.run s = (.ok a, s'))
    (f : α → Dialog σ β) :
    (d >>= f).run s = (f a).run s' := by
  have hrun : (d >>= f).run s = ExceptT.bindCont f (d.run s).1 (d.run s).2 := rfl
  rw [hrun, h]
  rfl

lemma Dialog.run_lift_bind {x : Result α} {a : α} (h : x = .ok a) (f : α → Dialog σ β) (s : σ) :
    (liftM x >>= f).run s = (f a).run s := by
  rw [h]
  rfl

/-! ### Graphs -/

/-- A block of a page. -/
structure Block where
  id : String
  content : String

/-- A page of the graph. -/
structure Page where
  id : String
  /-- The blocks that stand in no other block. -/
  blocks : List Block

/-- The texts of a page. -/
def Page.contents (p : Page) : List String := p.blocks.map Block.content

/-- The pages by their titles. -/
abbrev Graph := String → Option Page

/-- The request is answered, and the answer and the graph afterwards are as told. -/
def Answers (api : Api σ) (graph : σ → Graph) (s : σ) (name : String) (args : List Value)
    (P : Value → Graph → Prop) : Prop :=
  ∃ v s', (call api name args).run s = (.ok v, s') ∧ P v (graph s')

/-- What the service tells of a page. -/
def Shows (v : Value) : Option Page → Prop
  | none => v = .null
  | some p => v.truthy = true ∧ v.field "uuid" = .ok p.id

/-- The options of an insertion. -/
def sibling (b : Bool) : Value := .object [("sibling", .bool b)]

/-- The service keeps a graph: it finds pages by their exact titles, creates them with an empty
block, tells the blocks of a page in their order, and puts a new block behind a block or into a page
without blocks. -/
structure Serves (api : Api σ) (graph : σ → Graph) : Prop where
  getPage : ∀ s title, Answers api graph s "getPage" [.str title] fun v g =>
    g = graph s ∧ Shows v (graph s title)
  createPage : ∀ s title, graph s title = none →
    Answers api graph s "createPage"
      [.str title, .map [], .object [("createFirstBlock", .bool true)]] fun _ g =>
      ∃ id first, g = Function.update (graph s) title (some ⟨id, [⟨first, ""⟩]⟩)
  getBlocks : ∀ s title p, graph s title = some p →
    Answers api graph s "getPageBlocksTree" [.str title] fun v g => g = graph s ∧
      ∃ vs, v = .list vs ∧ Forall₂ (fun v b => v.field "uuid" = .ok (.str b.id)) vs p.blocks
  insertBehind : ∀ s title p before b after text, graph s title = some p →
    p.blocks = before ++ b :: after →
    Answers api graph s "insertBlock" [.str b.id, .str text, sibling true] fun _ g =>
      ∃ id, g = Function.update (graph s) title (some ⟨p.id, before ++ b :: ⟨id, text⟩ :: after⟩)
  insertFirst : ∀ s title p text, graph s title = some p → p.blocks = [] →
    Answers api graph s "insertBlock" [.str p.id, .str text, sibling false] fun _ g =>
      ∃ id, g = Function.update (graph s) title (some ⟨p.id, [⟨id, text⟩]⟩)

/-! ### One text -/

variable {graph : σ → Graph}

/-- Puts a text behind the last block of a page. -/
def putLast (api : Api σ) (title text page : Value) : Dialog σ Value := do
  let blocks ← call api "getPageBlocksTree" [title]
  if ← hasBlocks blocks then
    let last ← (← lastOf blocks).field "uuid"
    call api "insertBlock" [last, text, sibling true]
  else
    let id ← page.field "uuid"
    call api "insertBlock" [id, text, sibling false]

lemma append_eq (title text : Value) :
    Writer.append api title text = pageOrNew api title .null >>= putLast api title text := by
  rw [Writer.append, pageOrNew, bind_assoc]
  refine congrArg _ (funext fun found => ?_)
  cases found.truthy <;> rfl

lemma Serves.pageOrNew (h : Serves api graph) (s : σ) (title : String) :
    ∃ page p s', (Writer.pageOrNew api title .null).run s = (.ok page, s') ∧
      graph s' = Function.update (graph s) title (some p) ∧
      p.contents = ((graph s title).map Page.contents).getD [""] ∧
      (p.blocks = [] → page.field "uuid" = .ok p.id) := by
  obtain ⟨v, s₁, hrun, hsame, hshows⟩ := h.getPage s title
  rw [Writer.pageOrNew, Dialog.run_bind_ok hrun]
  cases hp : graph s title with
  | some p =>
    rw [hp] at hshows
    obtain ⟨htruthy, hid⟩ := hshows
    refine ⟨v, p, s₁, by rw [if_pos htruthy]; rfl, ?_, rfl, fun _ => hid⟩
    rw [hsame, ← hp, Function.update_eq_self]
  | none =>
    rw [hp] at hshows
    obtain rfl : v = .null := hshows
    -- the page is looked up once more before it is created
    obtain ⟨v, s₂, hrun₂, hsame₂, hshows₂⟩ := h.getPage s₁ title
    rw [hsame, hp] at hshows₂
    obtain rfl : v = .null := hshows₂
    obtain ⟨page, s₃, hrun₃, id, first, hnew⟩ := h.createPage s₂ title (by rw [hsame₂, hsame, hp])
    refine ⟨page, ⟨id, [⟨first, ""⟩]⟩, s₃, ?_, by rw [hnew, hsame₂, hsame], rfl,
      fun hnil => by cases hnil⟩
    rw [if_neg (by simp [truthy]), Writer.createPage, Dialog.run_bind_ok hrun₂]
    exact Dialog.run_bind_ok hrun₃ _

lemma hasBlocks_list (vs : List Value) : hasBlocks (.list vs) = .ok (!vs.isEmpty) := by
  cases vs <;> rfl

lemma lastOf_concat (vs : List Value) (v : Value) : lastOf (.list (vs ++ [v])) = .ok v := by
  simp [lastOf, size, item, bind, Except.bind]

/-- A text that is appended becomes the last block of its page, and all other pages stay as they
are. -/
theorem Serves.append (h : Serves api graph) (s : σ) (title text : String) :
    ∃ v s' p, (Writer.append api title text).run s = (.ok v, s') ∧
      graph s' = Function.update (graph s) title (some p) ∧
      p.contents = ((graph s title).map Page.contents).getD [""] ++ [text] := by
  obtain ⟨page, p, s₁, hrun, hgraph, hcontents, hid⟩ := h.pageOrNew s title
  have hp : graph s₁ title = some p := by rw [hgraph, Function.update_self]
  obtain ⟨_, s₂, hblocks, hsame, vs, rfl, hvs⟩ := h.getBlocks s₁ title p hp
  rw [← hsame] at hp
  rw [append_eq, Dialog.run_bind_ok hrun, putLast, Dialog.run_bind_ok hblocks, hasBlocks_list]
  rcases eq_nil_or_concat' p.blocks with hnil | ⟨before, b, hconcat⟩
  · obtain rfl : vs = [] := by simpa [hnil] using hvs
    obtain ⟨v, s₃, hinsert, id, hnew⟩ := h.insertFirst s₂ title p text hp hnil
    refine ⟨v, s₃, ⟨p.id, [⟨id, text⟩]⟩, ?_, by rw [hnew, hsame, hgraph, Function.update_idem], ?_⟩
    · rw [hid hnil]
      exact hinsert
    · rw [← hcontents, Page.contents, Page.contents, hnil]
      rfl
  · rw [hconcat] at hvs
    obtain ⟨us, v, rfl, hlast⟩ : ∃ us v, vs = us ++ [v] ∧ v.field "uuid" = .ok b.id := by
      rw [← forall₂_reverse_iff, reverse_append] at hvs
      obtain ⟨v, us, hv, -, hus⟩ := forall₂_cons_right_iff.mp hvs
      exact ⟨us.reverse, v, by rw [← reverse_reverse vs, hus, reverse_cons], hv⟩
    obtain ⟨v', s₃, hinsert, id, hnew⟩ := h.insertBehind s₂ title p before b [] text hp hconcat
    refine ⟨v', s₃, ⟨p.id, before ++ [b, ⟨id, text⟩]⟩,
      ?_, by rw [hnew, hsame, hgraph, Function.update_idem], ?_⟩
    · rw [lastOf_concat, show (us ++ [v]).isEmpty = false by simp]
      exact (Dialog.run_lift_bind hlast _ s₂).trans hinsert
    · rw [← hcontents, Page.contents, Page.contents, hconcat]
      simp

/-! ### Many texts -/

/-- A text that goes to the end of a page, by itself or as a note with the time at which it is
taken. -/
inductive Entry where
  | text (title content : String)
  | note (now : Calendar.DateTime) (title notes lead : String)

namespace Entry

/-- The page that an entry goes to. -/
def title : Entry → String
  | text title _ => title
  | note _ title _ lead => s!"{lead}/{title}"

/-- The text that an entry adds. -/
def content : Entry → String
  | text _ content => content
  | note now _ notes _ => noteText now notes

/-- An entry is added through the service. -/
def add (api : Api σ) : Entry → Dialog σ Value
  | text title content => Writer.append api title content
  | note now title notes lead => takeNotes api now title notes lead

lemma add_eq (e : Entry) : e.add api = Writer.append api e.title e.content := by
  cases e <;> rfl

/-- The contents of a page to whose end texts were appended. -/
def appended (old : Option (List String)) : List String → Option (List String)
  | [] => old
  | texts => some (old.getD [""] ++ texts)

/-- The texts that entries add to a page. -/
def textsFor (title : String) (es : List Entry) : List String :=
  (es.filter (·.title = title)).map content

lemma appended_cons (old : Option (List String)) (text : String) (texts : List String) :
    appended old (text :: texts) = appended (some (old.getD [""] ++ [text])) texts := by
  cases texts <;> simp [appended]

/-- A service that keeps a graph takes every sequence of texts and notes: each page then has its old
contents, or an empty block if it is new, and behind them the texts for it in their order.  Pages
that got no text are as they were. -/
theorem pages_after_entries (h : Serves api graph) (es : List Entry) (s : σ) :
    ∃ vs s', (es.mapM (add api)).run s = (.ok vs, s') ∧
      ∀ title, (graph s' title).map Page.contents =
        appended ((graph s title).map Page.contents) (textsFor title es) ∧
        (title ∉ es.map Entry.title → graph s' title = graph s title) := by
  induction es generalizing s with
  | nil => exact ⟨[], s, rfl, fun title => ⟨rfl, fun _ => rfl⟩⟩
  | cons e es ih =>
    obtain ⟨v, s₁, p, hadd, hgraph, hcontents⟩ := h.append s e.title e.content
    obtain ⟨vs, s₂, hrun, hpages⟩ := ih s₁
    refine ⟨v :: vs, s₂, ?_, fun title => ?_⟩
    · rw [mapM_cons, add_eq, Dialog.run_bind_ok hadd, Dialog.run_bind_ok hrun]
      rfl
    · obtain ⟨htexts, hothers⟩ := hpages title
      rw [hgraph] at htexts hothers
      by_cases htitle : e.title = title
      · subst htitle
        refine ⟨?_, fun hnotMem => absurd (mem_map_of_mem mem_cons_self) hnotMem⟩
        rw [htexts, Function.update_self, Option.map_some, hcontents, ← appended_cons,
          textsFor, textsFor, filter_cons_of_pos (by simp), map_cons]
      · rw [Function.update_of_ne (Ne.symm htitle)] at htexts hothers
        refine ⟨?_, fun hnotMem => hothers fun hmem => hnotMem (mem_cons_of_mem _ hmem)⟩
        rw [htexts, textsFor, textsFor, filter_cons_of_neg (by simpa using htitle)]

end Entry

/-! ### A service -/

/-- A page or a block below the title of its page.  The first row of a title is the page, the others
are its blocks. -/
structure Row where
  title : String
  id : String
  content : String

def Row.block (r : Row) : Block := ⟨r.id, r.content⟩

/-- The page with the given rows. -/
def pageOf : List Row → Option Page
  | [] => none
  | page :: blocks => some ⟨page.id, blocks.map Row.block⟩

lemma pageOf_eq_some {rs : List Row} {p : Page} (h : pageOf rs = some p) :
    ∃ page blocks, rs = page :: blocks ∧ p = ⟨page.id, blocks.map Row.block⟩ := by
  cases rs with
  | nil => cases h
  | cons page blocks => exact ⟨page, blocks, rfl, (Option.some.inj h).symm⟩

/-- Pages and blocks with identifiers of their own. -/
structure Store where
  rows : List Row
  distinct : (rows.map Row.id).Nodup

namespace Store

variable (s : Store)

/-- The rows of a page. -/
def below (title : String) : List Row := s.rows.filter (·.title = title)

/-- The graph that a store holds. -/
def pages : Graph := fun title => pageOf (s.below title)

/-- Identities that no row has: they are longer than all others. -/
def fresh (k : Nat) : String :=
  .ofList ((s.rows.map (·.id.toList)).flatten ++ replicate (k + 1) '0')

lemma fresh_ne {r : Row} (hr : r ∈ s.rows) (k : Nat) : r.id ≠ s.fresh k := by
  intro h
  have hle :=
    (sublist_flatten_of_mem (mem_map_of_mem hr : r.id.toList ∈ s.rows.map (·.id.toList))).length_le
  have hlength := congrArg (fun t : String => t.toList.length) h
  simp only [fresh, String.toList_ofList, length_append, length_replicate] at hlength
  omega

/-- A new page with an empty block. -/
def create (title : String) : Store where
  rows := s.rows ++ [⟨title, s.fresh 0, ""⟩, ⟨title, s.fresh 1, ""⟩]
  distinct := by
    have hne : s.fresh 0 ≠ s.fresh 1 := fun h => by simpa [fresh] using congrArg String.toList h
    simp only [map_append, map_cons, map_nil, nodup_append, s.distinct]
    simpa [hne] using fun r hr => ⟨s.fresh_ne hr 0, s.fresh_ne hr 1⟩

/-- A row behind the one with an identifier. -/
def insertAfter (id new text : String) : List Row → List Row
  | [] => []
  | r :: rs =>
    if r.id = id then r :: ⟨r.title, new, text⟩ :: rs else r :: insertAfter id new text rs

lemma insertAfter_append {before after : List Row} {r : Row}
    (h : ((before ++ r :: after).map Row.id).Nodup) (new text : String) :
    insertAfter r.id new text (before ++ r :: after) = before ++
      r :: ⟨r.title, new, text⟩ :: after := by
  induction before with
  | nil => simp [insertAfter]
  | cons r' rs ih =>
    rw [cons_append, map_cons, nodup_cons] at h
    have hne : r'.id ≠ r.id := fun heq => h.1 (heq ▸ by simp)
    rw [cons_append, insertAfter, if_neg hne, ih h.2, cons_append]

lemma ids_insertAfter (id new text : String) (rs : List Row) :
    (insertAfter id new text rs).map Row.id = rs.map Row.id ∨
      (insertAfter id new text rs).map Row.id ~ new :: rs.map Row.id := by
  induction rs with
  | nil => exact .inl rfl
  | cons r rs ih =>
    rw [insertAfter]
    split_ifs
    · exact .inr (.swap new r.id _)
    · exact ih.imp (congrArg (r.id :: ·)) fun h => (h.cons r.id).trans (.swap new r.id _)

/-- A new block behind another one. -/
def insert (id text : String) : Store where
  rows := insertAfter id (s.fresh 0) text s.rows
  distinct := by
    rcases ids_insertAfter id (s.fresh 0) text s.rows with h | h
    · exact h ▸ s.distinct
    · refine h.nodup_iff.mpr (nodup_cons.mpr ⟨fun hmem => ?_, s.distinct⟩)
      obtain ⟨r, hr, hid⟩ := mem_map.mp hmem
      exact s.fresh_ne hr 0 hid

/-- The operations on a store. -/
def service : Api Store := fun operation args => do
  let s ← get
  match operation, args with
  | "logseq.Editor.getPage", [.str title] =>
    return .ofOption (fun p : Page => .object [("uuid", .str p.id)]) (s.pages title)
  | "logseq.Editor.createPage", [.str title, _, _] =>
    set (s.create title)
    return .object [("uuid", .str (s.fresh 0))]
  | "logseq.Editor.getPageBlocksTree", [.str title] =>
    return .list (((s.pages title).map Page.blocks).getD [] |>.map fun b =>
      .object [("uuid", .str b.id), ("content", .str b.content)])
  | "logseq.Editor.insertBlock", [.str id, .str text, _] =>
    set (s.insert id text)
    return .object [("uuid", .str (s.fresh 0)), ("content", .str text)]
  | _, _ => throw (.service .write s!"Unknown method: {operation}")

/-- A text goes behind a row of its page, be it the page itself or one of its blocks, and no other
page changes. -/
lemma pages_insert {title : String} {before after : List Row} {r : Row}
    (h : s.below title = before ++ r :: after) (text : String) : (s.insert r.id text).pages =
      Function.update s.pages title
        (pageOf (before ++ r :: ⟨title, s.fresh 0, text⟩ :: after)) := by
  obtain ⟨front, rest, hrows, rfl, hrest⟩ := filter_eq_append_iff.mp h
  obtain ⟨gap, back, rfl, hgap, htitle, rfl⟩ := filter_eq_cons_iff.mp hrest
  obtain rfl : r.title = title := by simpa using htitle
  rw [← append_assoc] at hrows
  have hinsert : (s.insert r.id text).rows = (front ++ gap) ++
      r :: ⟨r.title, s.fresh 0, text⟩ :: back := by
    have happend := insertAfter_append (hrows ▸ s.distinct) (s.fresh 0) text
    rwa [← hrows] at happend
  funext other
  by_cases hother : other = r.title
  · subst hother
    simp [pages, below, hinsert, filter_eq_nil_iff.mpr hgap]
  · simp [pages, below, hinsert, hrows, hother, Ne.symm hother]

lemma below_eq_nil {title : String} (h : s.pages title = none) : s.below title = [] := by
  cases hbelow : s.below title with
  | nil => rfl
  | cons r rs => rw [pages, hbelow] at h; cases h

lemma pages_create {title : String} (h : s.pages title = none) : (s.create title).pages =
    Function.update s.pages title (some ⟨s.fresh 0, [⟨s.fresh 1, ""⟩]⟩) := by
  funext other
  by_cases hother : other = title
  · subst hother
    simp [pages, below, create, show filter _ s.rows = [] from s.below_eq_nil h, pageOf, Row.block]
  · simp [pages, below, create, hother, Ne.symm hother]

/-- The store serves the operations on pages as they are meant. -/
theorem serves : Serves service pages where
  getPage s title := by
    refine ⟨_, s, rfl, rfl, ?_⟩
    cases s.pages title with
    | none => rfl
    | some p => exact ⟨rfl, rfl⟩
  createPage s title hnone := ⟨_, s.create title, rfl, _, _, s.pages_create hnone⟩
  getBlocks s title p hp := by
    refine ⟨_, s, rfl, rfl, _, rfl, ?_⟩
    rw [hp, forall₂_map_left_iff]
    exact forall₂_same.mpr fun b _ => rfl
  insertBehind s title p before b after text hp hblocks := by
    obtain ⟨page, rows, hrows, rfl⟩ := pageOf_eq_some hp
    obtain ⟨front, rest, rfl, rfl, hrest⟩ := map_eq_append_iff.mp hblocks
    obtain ⟨r, back, rfl, rfl, rfl⟩ := map_eq_cons_iff.mp hrest
    refine ⟨_, s.insert r.id text, rfl, s.fresh 0, ?_⟩
    rw [s.pages_insert (show s.below title = (page :: front) ++ r :: back from hrows), cons_append,
      pageOf, map_append]
    rfl
  insertFirst s title p text hp hnil := by
    obtain ⟨page, rows, hrows, rfl⟩ := pageOf_eq_some hp
    obtain rfl := map_eq_nil_iff.mp hnil
    exact ⟨_, s.insert page.id text, rfl, s.fresh 0,
      s.pages_insert (show s.below title = [] ++ page :: [] from hrows) text⟩

def diary : Store := ⟨[⟨"Log", "p0", ""⟩, ⟨"Log", "b0", "old"⟩, ⟨"Empty", "p1", ""⟩], by decide⟩

end Store

namespace Entry

def busyDay : List Entry :=
  [text "Log" "one", text "New" "two",
   note { date := ⟨2025, 1, 15⟩, hour := 12 } "Day" "three" "Claude Notes", text "Log" "four",
   text "Empty" "five"]

/-- What five notes leave on the pages of the store. -/
theorem pages_after_busyDay :
    ∃ vs s', (busyDay.mapM (add Store.service)).run Store.diary = (.ok vs, s') ∧
    (s'.pages "Log").map Page.contents = some ["old", "one", "four"] ∧
    (s'.pages "New").map Page.contents = some ["", "two"] ∧
    (s'.pages "Claude Notes/Day").map Page.contents = some
      ["", "## 2025-01-15 12:00\n\nthree\n\n---"] ∧
    (s'.pages "Empty").map Page.contents = some ["five"] ∧ s'.pages "Other" = none := by
  obtain ⟨vs, s', hrun, hpages⟩ := pages_after_entries Store.serves busyDay Store.diary
  exact ⟨vs, s', hrun, (hpages "Log").1, (hpages "New").1, (hpages "Claude Notes/Day").1,
    (hpages "Empty").1, (hpages "Other").2 (by decide)⟩

end Entry

/-! ### New pages -/

/-- The service creates a page with an empty block or without blocks, as it is told, and gives a
block a new text. -/
structure Writes (api : Api σ) (graph : σ → Graph) : Prop extends Serves api graph where
  createWith : ∀ s title properties first, graph s title = none →
    Answers api graph s "createPage"
      [.str title, properties, .object [("createFirstBlock", .bool first)]] fun _ g =>
      ∃ id block,
        g = Function.update (graph s) title (some ⟨id, if first then [⟨block, ""⟩] else []⟩)
  updateBlock : ∀ s title p before b after text, graph s title = some p →
    p.blocks = before ++ b :: after →
    Answers api graph s "updateBlock" [.str b.id, .str text] fun _ g =>
      g = Function.update (graph s) title (some ⟨p.id, before ++ ⟨b.id, text⟩ :: after⟩)

/-- Puts a text into the first block of a page. -/
def fillFirst (api : Api σ) (title content page : Value) : Dialog σ Value := do
  if content.truthy && page.truthy then
    let blocks ← call api "getPageBlocksTree" [title]
    if ← hasBlocks blocks then
      let _ ← call api "updateBlock" [← firstId blocks, content]
  return page

/-- A page without blocks stays without them. -/
lemma Writes.fillFirst (h : Writes api graph) {s : σ} {title content : String} {p : Page}
    (hp : graph s title = some p) (hcontent : content ≠ "") {page : Value}
    (hpage : page.truthy = true) :
    ∃ s', (fillFirst api title content page).run s = (.ok page, s') ∧
      graph s' = Function.update (graph s) title (some ⟨p.id, match p.blocks with
        | [] => []
        | b :: bs => ⟨b.id, content⟩ :: bs⟩) := by
  have htruthy : ((Value.str content).truthy && page.truthy) = true := by
    rw [hpage, Bool.and_true]
    simpa [truthy] using hcontent
  obtain ⟨_, s₁, hblocks, hsame, vs, rfl, hvs⟩ := h.getBlocks s title p hp
  rw [Notes.fillFirst, if_pos htruthy]
  obtain ⟨id, blocks⟩ := p
  cases hvs with
  | nil =>
    refine ⟨s₁, Dialog.run_bind_ok hblocks _, ?_⟩
    rw [hsame, ← hp, Function.update_eq_self]
  | @cons v b vs bs hv hrest =>
    have hfirst : firstId (.list (v :: vs)) = .ok (.str b.id) := hv
    obtain ⟨v', s₂, hupdate, hnew⟩ :=
      h.updateBlock s₁ title ⟨id, b :: bs⟩ [] b bs content (hsame ▸ hp) rfl
    refine ⟨s₂, ?_, by rw [hnew, hsame]; rfl⟩
    refine (Dialog.run_bind_ok hblocks _).trans
      ((Dialog.run_lift_bind (hasBlocks_list _) _ _).trans ?_)
    exact (Dialog.run_lift_bind hfirst _ _).trans (Dialog.run_bind_ok hupdate _)

/-- The row with another content if it has the identity. -/
def Row.withContent (id text : String) (r : Row) : Row :=
  if r.id = id then { r with content := text } else r

lemma Row.id_withContent (id text : String) (r : Row) : (r.withContent id text).id = r.id := by
  unfold withContent
  split_ifs <;> rfl

lemma Row.title_withContent (id text : String) (r : Row) :
    (r.withContent id text).title = r.title := by
  unfold withContent
  split_ifs <;> rfl

lemma map_withContent_of_ne {id : String} {rs : List Row} (h : ∀ r ∈ rs, r.id ≠ id)
    (text : String) :
    rs.map (Row.withContent id text) = rs :=
  (map_congr_left fun r hr => if_neg (h r hr)).trans (map_id rs)

namespace Store

/-- A new page without blocks. -/
def createBare (s : Store) (title : String) : Store where
  rows := s.rows ++ [⟨title, s.fresh 0, ""⟩]
  distinct := by
    simp only [map_append, map_cons, map_nil, nodup_append, s.distinct]
    simpa using fun r hr => s.fresh_ne hr 0

/-- A block with another text. -/
def setContent (s : Store) (id text : String) : Store where
  rows := s.rows.map (Row.withContent id text)
  distinct := by
    rw [map_map, show Row.id ∘ Row.withContent id text =
      Row.id from funext (Row.id_withContent id text)]
    exact s.distinct

/-- The service with all that is asked of it for new pages. -/
def writing : Api Store := fun operation args =>
  match operation, args with
  | "logseq.Editor.createPage", [.str title, _, .map [(.str "createFirstBlock", .bool false)]] => do
    let s ← get
    set (s.createBare title)
    return .object [("uuid", .str (s.fresh 0))]
  | "logseq.Editor.updateBlock", [.str id, .str text] => do
    let s ← get
    set (s.setContent id text)
    return .null
  | _, _ => service operation args

lemma below_setContent (s : Store) (id text title : String) :
    (s.setContent id text).below title = (s.below title).map (Row.withContent id text) := by
  have htitle : (fun r : Row => decide (r.title = title)) ∘ Row.withContent id text = fun r =>
      decide (r.title = title) :=
    funext fun r => by simp [Row.title_withContent]
  rw [below, below, setContent, filter_map, htitle]

lemma pages_createBare (s : Store) {title : String} (h : s.pages title = none) :
    (s.createBare title).pages = Function.update s.pages title (some ⟨s.fresh 0, []⟩) := by
  funext other
  by_cases hother : other = title
  · subst hother
    simp [pages, below, createBare, show filter _ s.rows = [] from s.below_eq_nil h, pageOf]
  · simp [pages, below, createBare, hother, Ne.symm hother]

lemma pages_setContent (s : Store) {title : String} {page r : Row} {front back : List Row}
    (h : s.below title = page :: (front ++ r :: back)) (text : String) :
    (s.setContent r.id text).pages =
      Function.update s.pages title
        (some ⟨page.id, front.map Row.block ++ ⟨r.id, text⟩ :: back.map Row.block⟩) := by
  have hr : r ∈ s.below title := by simp [h]
  funext other
  rw [pages, below_setContent]
  by_cases hother : other = title
  · subst hother
    have hdistinct : ((s.below other).map Row.id).Nodup := s.distinct.sublist (filter_sublist.map _)
    rw [h, map_cons, map_append, map_cons, nodup_cons, nodup_append, nodup_cons] at hdistinct
    obtain ⟨-, -, ⟨hback, -⟩, hfront⟩ := hdistinct
    have hbefore : front.map (Row.withContent r.id text) = front :=
      map_withContent_of_ne (fun x hx => hfront x.id (mem_map_of_mem hx) r.id mem_cons_self) text
    have hafter : back.map (Row.withContent r.id text) = back :=
      map_withContent_of_ne (fun x hx hid => hback (mem_map.mpr ⟨x, hx, hid⟩)) text
    have hself : Row.block (r.withContent r.id text) = ⟨r.id, text⟩ := by
      simp [Row.withContent, Row.block]
    rw [h, map_cons, map_append, map_cons, hbefore, hafter, pageOf, Row.id_withContent, map_append,
      map_cons, hself, Function.update_self]
  · have hapart : ∀ x ∈ s.below other, x.id ≠ r.id := by
      intro x hx hid
      obtain rfl := inj_on_of_nodup_map s.distinct (mem_of_mem_filter hx) (mem_of_mem_filter hr) hid
      exact hother ((by simpa using (mem_filter.mp hx).2 : x.title = other).symm.trans
        (by simpa using (mem_filter.mp hr).2))
    rw [map_withContent_of_ne hapart, Function.update_of_ne hother, pages]

/-- The store carries out what the writer asks for. -/
theorem writes : Writes writing pages where
  getPage := serves.getPage
  createPage := serves.createPage
  getBlocks := serves.getBlocks
  insertBehind := serves.insertBehind
  insertFirst := serves.insertFirst
  createWith s title properties first hnone := by
    cases first with
    | false => exact ⟨_, s.createBare title, rfl, _, "", s.pages_createBare hnone⟩
    | true => exact ⟨_, s.create title, rfl, _, _, s.pages_create hnone⟩
  updateBlock s title p before b after text hp hblocks := by
    obtain ⟨page, rows, hrows, rfl⟩ := pageOf_eq_some hp
    obtain ⟨front, rest, rfl, rfl, hrest⟩ := map_eq_append_iff.mp hblocks
    obtain ⟨r, back, rfl, rfl, rfl⟩ := map_eq_cons_iff.mp hrest
    exact ⟨_, s.setContent r.id text, rfl, s.pages_setContent hrows text⟩

end Store

/-- A new page holds the text that it was created with just if it was created with a first block. -/
theorem created_page_holds_content_iff (h : Writes api graph) (s : σ) {title content : String}
    (hnew : graph s title = none) (hcontent : content ≠ "") (properties : Value) (first : Bool) :
    ∃ v s' p, (createPage api title content properties first).run s = (.ok v, s') ∧
      graph s' = Function.update (graph s) title (some p) ∧
      (v.truthy = true → p.contents = (if first then [content] else []) ∧
        (content ∈ p.contents ↔ first = true)) := by
  obtain ⟨_, s₁, hget, hsame, hshows⟩ := h.getPage s title
  rw [hnew] at hshows
  obtain rfl := hshows
  obtain ⟨page, s₂, hcreate, id, block, hgraph⟩ :=
    h.createWith s₁ title (if properties.truthy then properties else .map []) first
      (by rw [hsame, hnew])
  have hrun : (createPage api title content properties first).run s =
      (fillFirst api title content page).run s₂ := by
    rw [createPage, Dialog.run_bind_ok hget, if_neg (by simp [truthy])]
    exact Dialog.run_bind_ok hcreate _
  rw [hrun]
  rw [hsame] at hgraph
  by_cases hpage : page.truthy = true
  · have hp : graph s₂ title = some ⟨id, if first then [⟨block, ""⟩] else []⟩ := by
      rw [hgraph, Function.update_self]
    obtain ⟨s₃, hfill, hfilled⟩ := h.fillFirst hp hcontent hpage
    refine ⟨page, s₃, _, hfill, by rw [hfilled, hgraph, Function.update_idem], fun _ => ?_⟩
    cases first <;> simp [Page.contents]
  · refine ⟨page, s₂, _, ?_, hgraph, fun htrue => absurd htrue hpage⟩
    rw [fillFirst, if_neg (by simp [hpage])]
    rfl

/-- A page that is made without a first block stays empty, though a text is given. -/
theorem new_page_without_blocks :
    ∃ v s', (Writer.createPage Store.writing "T" "text" .null false).run Store.diary = (.ok v, s') ∧
    v.truthy = true ∧ (s'.pages "T").map Page.contents = some [] := by
  obtain ⟨v, s', p, hrun, hgraph, hcontents⟩ :=
    created_page_holds_content_iff Store.writes Store.diary
      (show Store.diary.pages "T" = none by decide) (show "text" ≠ "" by decide) .null false
  have hpage : ((Writer.createPage Store.writing "T" "text" .null false).run Store.diary).1 =
      .ok (.object [("uuid", .str (Store.diary.fresh 0))]) := rfl
  rw [hrun] at hpage
  obtain rfl := Except.ok.inj hpage
  refine ⟨_, s', hrun, rfl, ?_⟩
  rw [hgraph, Function.update_self, Option.map_some, (hcontents rfl).1]
  rfl

end Workbench.Notes
