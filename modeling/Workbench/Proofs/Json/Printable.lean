import Workbench.Proofs.Json.ReadBack
import Workbench.Proofs.Text.Trim
import Workbench.World.Basic

/-!
# The characters of written JSON

A written document has line feeds and printable characters of ASCII only: all other characters of
its texts are escaped.
-/

open List String Except

namespace Workbench.Json

/-- A character that is kept as it is. -/
def Shown (c : Char) : Prop := c = '\n' ∨ (32 ≤ c.toNat ∧ c.toNat < 127)

instance (c : Char) : Decidable (Shown c) := inferInstanceAs (Decidable (_ ∨ _))

/-- A text of such characters. -/
def Printable (s : String) : Prop := ∀ c ∈ s.toList, Shown c

instance (s : String) : Decidable (Printable s) := decidableBAll Shown s.toList

lemma Printable.append {s t : String} (hs : Printable s) (ht : Printable t) :
    Printable (s ++ t) := by
  intro c hc
  rw [toList_append, mem_append] at hc
  exact hc.elim (hs c) (ht c)

lemma shown_hexDigit : ∀ n < 16, 32 ≤ (Text.hexDigit n).toNat ∧ (Text.hexDigit n).toNat < 127 := by
  decide

lemma shown_hex {width n : Nat} {c : Char} (hc : c ∈ Text.hex width n) : Shown c := by
  induction width generalizing n with
  | zero => simp [Text.hex] at hc
  | succ width ih =>
    rw [Text.hex, mem_append, mem_singleton] at hc
    rcases hc with hc | rfl
    · exact ih hc
    · exact Or.inr (shown_hexDigit _ (Nat.mod_lt _ (by omega)))

lemma shown_escapeChar {c d : Char} (hd : d ∈ escapeChar c) : Shown d := by
  have hshort : ∀ e : Char, 32 ≤ e.toNat ∧ e.toNat < 127 → d ∈ ['\\', e] → Shown d := by
    intro e he hmem
    simp only [mem_cons, not_mem_nil, or_false] at hmem
    rcases hmem with rfl | rfl
    · exact Or.inr (by decide)
    · exact Or.inr he
  simp only [escapeChar, beq_iff_eq, Bool.and_eq_true, decide_eq_true_eq] at hd
  split_ifs at hd with h1 h2 h3 h4 h5 h6 h7 h8 h9
  · exact hshort '"' (by decide) hd
  · exact hshort '\\' (by decide) hd
  · exact hshort 'n' (by decide) hd
  · exact hshort 'r' (by decide) hd
  · exact hshort 't' (by decide) hd
  · exact hshort 'b' (by decide) hd
  · exact hshort 'f' (by decide) hd
  · obtain rfl : d = c := by simpa using hd
    exact Or.inr h8
  · simp only [mem_cons] at hd
    rcases hd with rfl | rfl | hd
    · exact Or.inr (by decide)
    · exact Or.inr (by decide)
    · exact shown_hex hd
  · simp only [cons_append, mem_cons, mem_append] at hd
    rcases hd with rfl | rfl | hd | rfl | rfl | hd
    · exact Or.inr (by decide)
    · exact Or.inr (by decide)
    · exact shown_hex hd
    · exact Or.inr (by decide)
    · exact Or.inr (by decide)
    · exact shown_hex hd

lemma printable_quote (s : String) : Printable (quote s) := by
  intro c hc
  simp only [toList_quote, mem_cons, mem_append, mem_flatMap, not_mem_nil, or_false] at hc
  rcases hc with rfl | ⟨d, -, hd⟩ | rfl
  · decide
  · exact shown_escapeChar hd
  · decide

lemma shown_digit {c : Char} (hc : Text.isAsciiDigit c = true) : Shown c := by
  simp only [Text.isAsciiDigit, Bool.and_eq_true, decide_eq_true_eq, Char.le_def] at hc
  refine Or.inr ⟨?_, ?_⟩
  · exact Nat.le_trans (by decide) (UInt32.le_iff_toNat_le.mp hc.1)
  · exact Nat.lt_of_le_of_lt (UInt32.le_iff_toNat_le.mp hc.2) (by decide)

lemma printable_int (n : Int) : Printable (toString n) := by
  intro c hc
  have hdigits : c ∈ Nat.toDigits 10 n.natAbs → Shown c :=
    fun h => shown_digit ((numeral_toDigits _).digits c h)
  rw [toList_int] at hc
  split_ifs at hc with hn
  · rcases mem_cons.mp hc with rfl | h
    · decide
    · exact hdigits h
  · exact hdigits hc

lemma printable_digits {ds : Chars} (h : ∀ c ∈ ds, Text.isAsciiDigit c = true) :
    Printable (.ofList ds) := by
  intro c hc
  rw [toList_ofList] at hc
  exact shown_digit (h c hc)

lemma printable_zeros (n : Nat) : Printable (Text.times "0" n) := by
  induction n with
  | zero => simp [Printable, Text.times]
  | succ n ih =>
    have hzero : Printable "0" := by decide
    exact hzero.append ih

lemma printable_layout {ds : Chars} (h : ∀ c ∈ ds, Text.isAsciiDigit c = true) (e : Int) :
    Printable (Decimal.layout ds e) := by
  have hpoint : Printable "." := by decide
  have hzero : Printable "0" := by decide
  have hempty : Printable "" := by decide
  have htake : ∀ k, ∀ c ∈ ds.take k, Text.isAsciiDigit c = true :=
    fun k c hc => h c (mem_of_mem_take hc)
  have hdrop : ∀ k, Printable (.ofList (ds.drop k)) :=
    fun k => printable_digits fun c hc => h c (mem_of_mem_drop hc)
  rw [Decimal.layout]
  split_ifs
  · exact (Printable.append (by decide) (printable_zeros _)).append (printable_digits h)
  · refine ((printable_digits ?_).append hpoint).append ?_
    · intro c hc
      rcases mem_append.mp hc with hc | hc
      · exact htake _ c hc
      · rw [eq_of_mem_replicate hc]
        decide
    · split_ifs
      · exact hzero
      · exact hdrop _
  · have hdigits : Printable (toString e.natAbs) := printable_int (e.natAbs : Int)
    refine (((printable_digits (htake 1)).append ?_).append (by decide)).append ?_
    · split_ifs
      · exact hempty
      · exact hpoint.append (hdrop 1)
    · rw [Decimal.exponentText]
      refine Printable.append ?_ ?_
      · split_ifs <;> decide
      · split_ifs
        · exact hzero.append hdigits
        · exact hdigits

lemma printable_floatText (x : Float) : Printable (floatText x) := by
  rw [floatText]
  cases hx : Decimal.shape x with
  | nan => exact show Printable "NaN" by decide
  | infinite neg =>
    dsimp only
    split_ifs <;> decide
  | finite b =>
    simp only [Decimal.floatText, hx]
    refine Printable.append ?_ ?_
    · split_ifs <;> decide
    · split_ifs
      · decide
      · exact printable_layout (fun c hc =>
          (numeral_toDigits _).digits c (Text.mem_of_mem_dropEndWhile hc)) _

lemma printable_join {sep : String} (hsep : Printable sep) {parts : List String}
    (hparts : ∀ t ∈ parts, Printable t) : Printable (Text.join sep parts) := by
  induction parts with
  | nil => simp [Printable, Text.join]
  | cons t ts ih =>
    cases ts with
    | nil => simpa [Text.join] using hparts t (by simp)
    | cons t' ts =>
      have hrest := ih fun u hu => hparts u (mem_cons_of_mem _ hu)
      exact ((hparts t (by simp)).append hsep).append hrest

lemma printable_blanks (n : Nat) : Printable (Text.times " " n) := by
  induction n with
  | zero => simp [Printable, Text.times]
  | succ n ih =>
    have hblank : Printable " " := by decide
    exact hblank.append ih

lemma printable_enclose {l : Layout} (hl : Printable l.comma) (level : Nat)
    {opening closing : String} (hopening : Printable opening) (hclosing : Printable closing)
    {parts : List String}
    (hparts : ∀ t ∈ parts, Printable t) : Printable (l.enclose level opening closing parts) := by
  have hline : Printable "\n" := by decide
  have hcomma : Printable "," := by decide
  rw [Layout.enclose]
  split
  · exact hopening.append hclosing
  · split
    · exact (hopening.append (printable_join hl hparts)).append hclosing
    · have hpad := fun k => hline.append (printable_blanks k)
      exact ((((hopening.append (hpad _)).append
        (printable_join (hcomma.append (hpad _)) hparts)).append
        hline).append (printable_blanks _)).append hclosing

lemma printable_sign {s : String} {c : Char} (hc : Shown c)
    (hs : ∃ bs, s.toList = c :: bs ∧ ∀ b ∈ bs, b = ' ') :
    Printable s := by
  obtain ⟨bs, hbs, hblank⟩ := hs
  intro d hd
  rw [hbs, mem_cons] at hd
  rcases hd with rfl | hd
  · exact hc
  · rw [hblank d hd]
    decide

lemma forall_of_forall₂ {α β : Type} {R : α → β → Prop} {P : α → Prop} {xs : List α} {ys : List β}
    (h : Forall₂ R xs ys) (himp : ∀ y ∈ ys, ∀ x, R x y → P x) : ∀ x ∈ xs, P x := by
  induction h with
  | nil => simp
  | cons hxy _ ih =>
    intro x hx
    rcases mem_cons.mp hx with rfl | hx
    · exact himp _ (by simp) _ hxy
    · exact ih (fun y hy => himp y (by simp [hy])) x hx

/-- What is written has no characters that are lost in a file. -/
theorem printable_write {f : Float → Float} {l : Layout} (hl : l.Sane) {d : Nat} {v : Value}
    (hv : Readable f d v) {level : Nat} {text : String} (h : write l level v = .ok text) :
    Printable text := by
  have hcomma : Printable l.comma := printable_sign (by decide) hl.comma
  have hcolon : Printable l.colon := printable_sign (by decide) hl.colon
  induction hv generalizing level text with
  | null =>
    obtain rfl : text = "null" := by simpa [write, writeAtom] using h.symm
    decide
  | bool b =>
    obtain rfl : text = if b then "true" else "false" := by simpa [write, writeAtom] using h.symm
    cases b <;> decide
  | int n =>
    have hwhole : l.whole n = .ok text := by simpa [write, writeAtom] using h
    rw [Layout.whole] at hwhole
    obtain rfl : text = toString n := by
      split at hwhole
      · exact (ok.inj hwhole).symm
      · split_ifs at hwhole
        exact (ok.inj hwhole).symm
    exact printable_int n
  | float hx =>
    obtain rfl : text = floatText _ := by simpa [write, writeAtom] using h.symm
    exact printable_floatText _
  | str s =>
    obtain rfl : text = quote s := by simpa [write, writeAtom] using h.symm
    exact printable_quote s
  | @list _ xs _ ih =>
    rw [write] at h
    cases hparts : writeItems l (level + 1) xs with
    | error e => simp [hparts, Except.map] at h
    | ok parts =>
      obtain rfl : l.enclose level "[" "]" parts = text := by simpa [hparts, Except.map] using h
      exact printable_enclose hcomma level (by decide) (by decide)
        (forall_of_forall₂ (writeItems_ok hparts) fun x hx t ht => ih x hx ht)
  | @object _ es _ _ ih =>
    rw [Value.object_eq, write] at h
    cases hparts : writeEntries l (level + 1) (Value.keyed es) with
    | error e => simp [hparts, Except.map] at h
    | ok parts =>
      obtain rfl : l.enclose level "\x7b" "\x7d" parts = text := by
        simpa [hparts, Except.map] using h
      refine printable_enclose hcomma level (by decide) (by decide)
        (forall_of_forall₂ (writeEntries_ok hparts) ?_)
      rintro e he t ⟨u, hu, rfl⟩
      exact ((printable_quote e.1).append hcolon).append (ih e he hu)

/-- A printable text is read from a file as it stands. -/
theorem Printable.decodeText {s : String} (hs : Printable s) :
    Tool.decodeText (.text s) = .ok s := by
  have hreturn : '\r' ∉ s.toList := fun h => absurd (hs _ h) (by decide)
  rw [Tool.decodeText, Text.unixLineEnds_of_notMem hreturn, ofList_toList]

lemma sane_jsonLayout (w : World) : (Tool.jsonLayout w .indented).Sane where
  comma := ⟨[' '], by simp [Tool.jsonLayout, Layout.indented], by simp⟩
  colon := ⟨[' '], by simp [Tool.jsonLayout, Layout.indented], by simp⟩
  digits := ⟨Decimal.digitLimit, rfl, Nat.le_refl _⟩

end Workbench.Json

namespace Workbench.Content

/-- The content of a file is read as the value. -/
def Reads (c : Content) (v : Value) : Prop :=
  ∃ text, Tool.decodeText c = .ok text ∧ Tool.parseJson text = .ok v

variable {l : Json.Layout} {v : Value} {text : String}

/-- What was written of a document is read as the document, up to the floats. -/
theorem reads_render_mapFloats {f : Float → Float} (hl : l.Sane)
    (hv : Json.Readable f Json.nestingLimit v) (h : Json.render l v = .ok text) :
    (Content.text text).Reads (v.mapFloats f) :=
  ⟨text, (Json.printable_write hl hv h).decodeText,
    by rw [Tool.parseJson, (Json.readsAs_write hl hv h).parse]⟩

/-- What was written of a document without floats is read as the document. -/
theorem reads_render (hl : l.Sane) (hv : Json.Plain Json.nestingLimit v)
    (h : Json.render l v = .ok text) :
    (Content.text text).Reads v := by
  simpa only [hv.mapFloats_id] using reads_render_mapFloats hl hv h

end Workbench.Content
