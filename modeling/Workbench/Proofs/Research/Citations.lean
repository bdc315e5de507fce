import Workbench.Proofs.Json.Numbers
import Workbench.Proofs.Markdown.Fences
import Workbench.Proofs.Pattern.Matching
import Workbench.Proofs.World.Exec
import Workbench.Research.Citation

/-!
# Places that are cited

A reference names a path and lines between backticks.  `openReference?_eq_some_iff` says what is
read as one, and `citation_readers_agree` that the two patterns for references and the reader of
references find the same ones, and find again those that were written into a text.
`accepted_unless_ends_fail` says which lines of a file are found valid: the order of the two ends is
not looked at.  `sources_own_iff` says which source a block of code is given: the source below the
first block that is written alike, if it ends within `sourceReach` characters of that block's start.
-/

open List

namespace Workbench.Research

open Text Tool Pattern

/-! ### Lines as they are cited -/

/-- A number in decimal digits of any script. -/
structure LineNumber where
  digits : Chars
  ne_nil : digits ≠ []
  decimal : ∀ c ∈ digits, isDecimal c = true

/-- The number of a line. -/
def LineNumber.value (n : LineNumber) : Nat := Decimal.ofDigits (n.digits.filterMap digitValue?)

/-- One line, or the lines from a first one to a last one. -/
inductive LineRange where
  | one (n : LineNumber)
  | span (first last : LineNumber)

namespace LineRange

/-- A range as it is written. -/
def chars : LineRange → Chars
  | .one n => n.digits
  | .span first last => first.digits ++ '-' :: last.digits

def text (r : LineRange) : String := .ofList r.chars

/-- The first line of a range. -/
def first : LineRange → LineNumber
  | .one n => n
  | .span first _ => first

/-- The last line of a range. -/
def last : LineRange → LineNumber
  | .one n => n
  | .span _ last => last

end LineRange

variable {s t u v rest : Chars} {r : Reference} {c d : Cursor} {fuel : Nat}

lemma LineNumber.notMem (n : LineNumber) {x : Char} (hx : isDecimal x = false) :
    x ∉ n.digits := fun h => by
  simp [n.decimal x h] at hx

lemma LineRange.notMem (l : LineRange) {x : Char} (hx : isDecimal x = false) (hhyphen : x ≠ '-') :
    x ∉ l.chars := by
  cases l with
  | one n => exact n.notMem hx
  | span first last => simp [chars, first.notMem hx, last.notMem hx, hhyphen]

lemma isRange_iff : isRange s = true ↔ ∃ l : LineRange, l.chars = s := by
  constructor
  · intro h
    have hfirst : ∀ c ∈ s.takeWhile isDecimal, isDecimal c = true := fun c => mem_takeWhile_imp
    have hparts : s.takeWhile isDecimal ++ s.dropWhile isDecimal = s := takeWhile_append_dropWhile
    unfold isRange at h
    split at h
    · next hrest =>
      rw [hrest, append_nil] at hparts
      exact ⟨.one ⟨_, by simpa using h, hfirst⟩, hparts⟩
    · next second hrest =>
      obtain ⟨⟨hne, hne'⟩, hsecond⟩ : (_ ∧ _) ∧ _ := by simpa only [Bool.and_eq_true] using h
      refine ⟨.span ⟨_, by simpa using hne, hfirst⟩
        ⟨second, by simpa using hne', by simpa using hsecond⟩, ?_⟩
      rw [hrest] at hparts
      exact hparts
    · cases h
  · rintro ⟨l, rfl⟩
    cases l with
    | one n =>
      have htake : n.digits.takeWhile isDecimal = n.digits := takeWhile_eq_self_iff.mpr n.decimal
      have hdrop : n.digits.dropWhile isDecimal = [] := dropWhile_eq_nil_iff.mpr n.decimal
      simp [isRange, LineRange.chars, htake, hdrop, n.ne_nil]
    | span first last =>
      have hend : ∀ c ∈ ('-' :: last.digits).head?, isDecimal c = false := by
        rintro c ⟨⟩
        decide
      rw [LineRange.chars, isRange, takeWhile_run first.decimal hend,
        dropWhile_run first.decimal hend]
      simpa [first.ne_nil, last.ne_nil] using last.decimal

/-! ### The verdict on a range of lines -/

lemma rangeOf_text {l : LineRange} (hfirst : l.first.digits.length ≤ Decimal.digitLimit)
    (hlast : l.last.digits.length ≤ Decimal.digitLimit) :
    rangeOf l.text = .ok ((l.first.value : Int), (l.last.value : Int)) := by
  have hwhole : ∀ n : LineNumber, n.digits.length ≤ Decimal.digitLimit →
      wholeOf (.ofList n.digits) = .ok (n.value : Int) :=
    fun n hn => wholeOf_decimals n.decimal n.ne_nil hn
  have hhyphen : isDecimal '-' = false := by decide
  cases l with
  | one n =>
    have hnone : contains (LineRange.one n).text "-" = false := by
      rw [← Bool.not_eq_true, contains_iff]
      intro h
      exact n.notMem hhyphen
        (by simpa [LineRange.text, LineRange.chars] using h.subset (mem_singleton_self '-'))
    rw [rangeOf, hnone]
    show (wholeOf (.ofList n.digits) >>= fun n => pure (n, n)) = _
    rw [hwhole n hfirst]
    rfl
  | span first last =>
    have hsome : contains (LineRange.span first last).text "-" = true := by
      rw [contains_iff]
      simp only [LineRange.text, LineRange.chars, String.toList_ofList]
      exact ⟨first.digits, last.digits, by simp⟩
    have hsplit : split (LineRange.span first last).text "-" =
        [.ofList first.digits, .ofList last.digits] := by
      have hjoin : split (join "-" [.ofList first.digits, .ofList last.digits]) "-" = _ :=
        split_join (x := '-') rfl
        (by simp) (by simp [first.notMem hhyphen, last.notMem hhyphen])
      have htext : (LineRange.span first last).text =
          join "-" [.ofList first.digits, .ofList last.digits] := by
        apply String.toList_injective
        simp [LineRange.text, LineRange.chars, join]
      rw [htext, hjoin]
    rw [rangeOf, hsome, if_pos rfl, hsplit]
    simp [hwhole first hfirst, hwhole last hlast, bind, Except.bind, pure, Except.pure]
    exact ⟨rfl, rfl⟩

/-- A file of text. -/
def IsText (w : World) (raw text : String) : Prop :=
  ∃ c, w.Reaches raw ∧ w.file? raw = some c ∧ decodeText c = .ok text

lemma rangeVerdict_valid_iff {lines : String} {first last total : Nat} :
    (rangeVerdict lines first last total).valid = true ↔ 1 ≤ first ∧ last ≤ total := by
  unfold rangeVerdict
  split_ifs with h
  · simp only [Bool.or_eq_true, decide_eq_true_eq] at h
    simp only [false_iff]
    omega
  · simp only [Bool.or_eq_true, decide_eq_true_eq] at h
    simp only [true_iff]
    omega

/-- The reference to these lines of a file is found valid. -/
def Accepted (w : World) (dir : Path) (path : String) (l : LineRange) : Prop :=
  ∃ v, (checkReference path l.text dir).exec w = (.ok v, w) ∧ v.valid = true

section Verdict

variable {w : World} {dir : Path} {path : String} {l : LineRange}

lemma exec_checkReference_of_text
    (hexists : (pathExists (dir / path).toString).exec w = (.ok true, w))
    (hrange : rangeOf l.text = .ok ((l.first.value : Int), (l.last.value : Int))) {text : String}
    (htext : (readText (dir / path).toString).exec w = (.ok text, w)) :
    (checkReference path l.text dir).exec w =
      (.ok (rangeVerdict l.text l.first.value l.last.value (lines text).length), w) := by
  rw [checkReference, exec_bind_ok hexists]
  refine (exec_bind_ok (exec_lift_ok hrange w) _).trans ?_
  exact exec_guarded_ok (exec_bind_ok htext _) _ _

lemma not_valid_of_error
    (hrange : rangeOf l.text = .ok ((l.first.value : Int), (l.last.value : Int))) {e : Fault}
    (hread : (readText (dir / path).toString).exec w = (.error e, w)) :
    ¬ Accepted w dir path l := by
  rintro ⟨v, hexec, hvalid⟩
  rw [checkReference] at hexec
  obtain ⟨found, hfound⟩ := exec_pathExists (dir / path).toString w
  rcases found with e | _ | _
  · cases (exec_bind_error hfound _).symm.trans hexec
  · obtain rfl : _ = v := by simpa using (exec_bind_ok hfound _).symm.trans hexec
    cases hvalid
  · replace hexec := (exec_bind_ok hfound _).symm.trans hexec
    replace hexec := (exec_bind_ok (exec_lift_ok hrange w) _).symm.trans hexec
    rw [exec_guarded, exec_bind_error hread] at hexec
    dsimp only at hexec
    split_ifs at hexec
    · obtain rfl : _ = v := by simpa using hexec
      cases hvalid
    · cases hexec

end Verdict

/-- A reference is found valid if the file can be read, the first line is not zero and the last one
is a line of the file.  That the first is not behind the last is not asked for, so a range is
wrongly found valid just if it is turned around so. -/
theorem accepted_unless_ends_fail (w : World) (dir : Path) (path : String) (l : LineRange)
    (hfirst : l.first.digits.length ≤ Decimal.digitLimit)
    (hlast : l.last.digits.length ≤ Decimal.digitLimit) :
    (Accepted w dir path l ↔ ∃ text, IsText w (dir / path).toString text ∧
      1 ≤ l.first.value ∧ l.last.value ≤ (lines text).length) ∧
    ((Accepted w dir path l ↔ ∃ text, IsText w (dir / path).toString text ∧
        1 ≤ l.first.value ∧ l.first.value ≤ l.last.value ∧ l.last.value ≤ (lines text).length) ↔
      ¬ ∃ text, IsText w (dir / path).toString text ∧
        1 ≤ l.first.value ∧ l.last.value < l.first.value ∧ l.last.value ≤ (lines text).length) := by
  have hrange := rangeOf_text hfirst hlast
  have haccepted : Accepted w dir path l ↔ ∃ text, IsText w (dir / path).toString text ∧
      1 ≤ l.first.value ∧ l.last.value ≤ (lines text).length := by
    constructor
    · intro h
      rcases exec_readText (dir / path).toString w with
        ⟨e, he⟩ | ⟨text, c, htext, hreaches, hfile, hdecode⟩
      · exact absurd h (not_valid_of_error hrange he)
      · have hexec :=
          exec_checkReference_of_text (exec_pathExists_of_file? hreaches hfile) hrange htext
        obtain ⟨v, hv, hvalid⟩ := h
        obtain rfl : _ = v := by simpa using hexec.symm.trans hv
        exact ⟨text, ⟨c, hreaches, hfile, hdecode⟩, rangeVerdict_valid_iff.mp hvalid⟩
    · rintro ⟨text, ⟨c, hreaches, hfile, hdecode⟩, hlines⟩
      exact ⟨_, exec_checkReference_of_text (exec_pathExists_of_file? hreaches hfile) hrange
        (exec_readText_ok hreaches hfile hdecode), rangeVerdict_valid_iff.mpr hlines⟩
  refine ⟨haccepted, ?_⟩
  rw [haccepted]
  constructor
  · rintro h ⟨text, htext, hone, hturned, hend⟩
    obtain ⟨-, -, -, hordered, -⟩ := h.mp ⟨text, htext, hone, hend⟩
    omega
  · intro h
    constructor
    · rintro ⟨text, htext, hone, hend⟩
      exact ⟨text, htext, hone, Nat.le_of_not_lt fun hturned =>
        h ⟨text, htext, hone, hturned, hend⟩, hend⟩
    · rintro ⟨text, htext, hone, -, hend⟩
      exact ⟨text, htext, hone, hend⟩

def lineNumber (c : Char) (h : isDecimal c = true) : LineNumber := ⟨[c], by simp, by simpa using h⟩

/-- A file of one line. -/
def shortWorld : World := { files := { entries := [(["a.txt"], .file (.text "x\n") false)] } }

/-- Lines seven to one of a file of one line. -/
theorem accepted_beyond_end :
    IsText shortWorld "a.txt" "x\n" ∧ (lines "x\n").length = 1 ∧
      Accepted shortWorld ⟨false, []⟩ "a.txt"
        (.span (lineNumber '7' (by decide)) (lineNumber '1' (by decide))) := by
  have htext : IsText shortWorld "a.txt" "x\n" := ⟨_, ⟨by decide, rfl⟩, rfl, rfl⟩
  exact ⟨htext, by decide, (accepted_unless_ends_fail _ _ _ _ (by decide) (by decide)).1.mpr
    ⟨"x\n", htext, by decide, by decide⟩⟩

/-! ### What stands between the backticks -/

/-- A reference without its backquotes. -/
def Reference.inside (r : Reference) : Chars := r.path ++ ':' :: r.lines

/-- A path without backquotes and a range of lines. -/
structure Reference.Sound (r : Reference) : Prop where
  path_ne : r.path ≠ []
  path_plain : '\x60' ∉ r.path
  lines : isRange r.lines = true

lemma Reference.Sound.notMem (h : r.Sound) {x : Char} (hx : isDecimal x = false)
    (hhyphen : x ≠ '-') : x ∉ r.lines := by
  obtain ⟨l, hl⟩ := isRange_iff.mp h.lines
  exact hl ▸ l.notMem hx hhyphen

lemma Reference.Sound.plain (h : r.Sound) : '\x60' ∉ r.inside := by
  simp [Reference.inside, h.path_plain, h.notMem (x := '\x60') (by decide) (by decide)]

/-- Cutting at the first character of a kind. -/
lemma cut_iff {x : Char} : (∃ y, s.takeWhile (· != x) = u ∧ s.dropWhile (· != x) = y :: v) ↔
    x ∉ u ∧ s = u ++ x :: v := by
  constructor
  · rintro ⟨y, rfl, hdrop⟩
    obtain rfl : y = x := by simpa [hdrop] using head?_dropWhile_not (· != x) s
    refine ⟨fun hmem => by simpa using mem_takeWhile_imp hmem, ?_⟩
    rw [← hdrop, takeWhile_append_dropWhile]
  · rintro ⟨hu, rfl⟩
    have hrun : ∀ c ∈ u, (c != x) = true := by
      intro c hc
      rw [bne_iff_ne]
      rintro rfl
      exact hu hc
    have hend : ∀ c ∈ (x :: v).head?, (c != x) = false := by simp
    exact ⟨x, takeWhile_run hrun hend, dropWhile_run hrun hend⟩

lemma splitLastColon_eq_some_iff {before after : Chars} :
    splitLastColon s = some (before, after) ↔ s = before ++ ':' :: after ∧ ':' ∉ after := by
  have hcut := cut_iff (s := s.reverse) (v := before.reverse) (x := ':') (u := after.reverse)
  have hparts : s.reverse = after.reverse ++ ':' :: before.reverse ↔
      s = before ++ ':' :: after := by
    rw [reverse_eq_iff]
    simp
  rw [mem_reverse, hparts, and_comm] at hcut
  rw [← hcut]
  simp only [splitLastColon]
  constructor
  · intro h
    split at h
    · cases h
    · next y rest hdrop =>
      obtain ⟨rfl, rfl⟩ := Prod.mk.inj (Option.some.inj h)
      exact ⟨y, (reverse_reverse _).symm, by rw [hdrop, reverse_reverse]⟩
  · rintro ⟨y, htake, hdrop⟩
    rw [htake, hdrop]
    simp

lemma ofInside?_eq_some_iff (hs : '\x60' ∉ s) :
    Reference.ofInside? s = some r ↔ r.Sound ∧ s = r.inside := by
  constructor
  · intro h
    obtain ⟨⟨path, lines⟩, hsplit, hread⟩ := Option.bind_eq_some_iff.mp h
    obtain ⟨rfl, -⟩ := splitLastColon_eq_some_iff.mp hsplit
    dsimp only at hread
    split_ifs at hread with hbad
    obtain rfl := Option.some.inj hread
    obtain ⟨hne, hlines⟩ : path ≠ [] ∧ isRange lines = true := by simpa using hbad
    exact ⟨⟨hne, fun hmem => hs (mem_append_left _ hmem), hlines⟩, rfl⟩
  · rintro ⟨h, rfl⟩
    have hsplit : splitLastColon r.inside = some (r.path, r.lines) :=
      splitLastColon_eq_some_iff.mpr ⟨rfl, h.notMem (by decide) (by decide)⟩
    rw [Reference.ofInside?, hsplit]
    simp [h.path_ne, h.lines]

lemma untilBacktick_eq_some_iff {inside : Chars} :
    untilBacktick s = some (inside, rest) ↔ '\x60' ∉ inside ∧ s = inside ++ '\x60' :: rest := by
  rw [← cut_iff, untilBacktick]
  constructor
  · intro h
    split at h
    · cases h
    · next y rest' hdrop =>
      obtain ⟨rfl, rfl⟩ := Prod.mk.inj (Option.some.inj h)
      exact ⟨y, rfl, hdrop⟩
  · rintro ⟨y, rfl, hdrop⟩
    rw [hdrop]

lemma openReference?_eq_some_iff :
    openReference? s = some (r, rest) ↔ r.Sound ∧ s = r.inside ++ '\x60' :: rest := by
  constructor
  · intro h
    obtain ⟨⟨inside, rest'⟩, huntil, h⟩ := Option.bind_eq_some_iff.mp h
    obtain ⟨r', hr', h⟩ := Option.bind_eq_some_iff.mp h
    obtain ⟨rfl, rfl⟩ := Prod.mk.inj (Option.some.inj h)
    obtain ⟨hinside, rfl⟩ := untilBacktick_eq_some_iff.mp huntil
    obtain ⟨hsound, rfl⟩ := (ofInside?_eq_some_iff hinside).mp hr'
    exact ⟨hsound, rfl⟩
  · rintro ⟨hsound, rfl⟩
    have huntil : untilBacktick (r.inside ++ '\x60' :: rest) = some (r.inside, rest) :=
      untilBacktick_eq_some_iff.mpr ⟨hsound.plain, rfl⟩
    rw [openReference?, huntil]
    simp [(ofInside?_eq_some_iff hsound.plain).mpr ⟨hsound, rfl⟩]

/-! ### References as a pattern -/

/-- A reference with its path and its lines in groups. -/
def citationPattern : Pattern.Node := ofString "\x60([^\x60]+):(\\d+(?:-\\d+)?)\x60"

/-- A reference of which only the presence matters. -/
def mentionPattern : Pattern.Node := ofString "\x60[^\x60]+:\\d+(-\\d+)?\x60"

/-- All characters but the backquote. -/
def tickless : CharSet := { negated := true, items := [.range 96 96] }

def digit : CharSet := { items := [.category false false .digit] }

def digits : Pattern.Node := .rep 1 none .greedy (.set digit)

def lastDigits : Pattern.Node := .seq (.set (charSet '-')) digits

lemma citationPattern_eq : citationPattern =
    .seq (.set (charSet '\x60'))
      (.seq (.group 1 (.rep 1 none .greedy (.set tickless)))
        (.seq (.set (charSet ':'))
        (.seq (.group 2 (.seq digits (.rep 0 (some 1) .greedy lastDigits)))
        (.set (charSet '\x60'))))) := by
  decide +kernel

lemma mentionPattern_eq : mentionPattern =
    .seq (.set (charSet '\x60'))
      (.seq (.rep 1 none .greedy (.set tickless))
        (.seq (.set (charSet ':'))
        (.seq digits (.seq (.rep 0 (some 1) .greedy (.group 1 lastDigits))
        (.set (charSet '\x60')))))) := by
  decide +kernel

lemma accepts_digit (x : Char) : digit.accepts x = isDecimal x := by
  simp [digit, CharSet.accepts, SetItem.accepts, Category.accepts]

lemma accepts_tickless_iff {x : Char} : tickless.accepts x = true ↔ x ≠ '\x60' := by
  have hset : tickless.accepts x = !(charSet '\x60').accepts x := by
    simp [tickless, charSet, CharSet.accepts]
  rw [hset, Bool.not_eq_true', ← Bool.not_eq_true, accepts_charSet_iff]

lemma runs_digit_iff {u : Chars} :
    digit.Runs none u ∧ 1 ≤ u.length ↔ ∃ n : LineNumber, n.digits = u := by
  constructor
  · rintro ⟨hu, hlength⟩
    exact ⟨⟨u, ne_nil_of_length_pos hlength,
      fun c hc => by rw [← accepts_digit]; exact hu.all c hc⟩, rfl⟩
  · rintro ⟨n, rfl⟩
    exact ⟨⟨fun x hx => by rw [accepts_digit]; exact n.decimal x hx, by simp⟩,
      length_pos_iff.mpr n.ne_nil⟩

lemma runs_tickless_iff {u : Chars} : tickless.Runs none u ↔ '\x60' ∉ u := by
  constructor
  · exact fun h hmem => accepts_tickless_iff.mp (h.all _ hmem) rfl
  · exact fun h => ⟨fun x hx => accepts_tickless_iff.mpr fun heq => h (heq ▸ hx), by simp⟩

/-- What follows is a reference between backticks. -/
def StartsReference (t : Chars) : Prop :=
  ∃ r rest, Reference.Sound r ∧ t = '\x60' :: (r.inside ++ '\x60' :: rest)

lemma isRange_chars (l : LineRange) : isRange l.chars = true := isRange_iff.mpr ⟨l, rfl⟩

lemma reads_digits :
    digits.Reads fun L t => ∃ (n : LineNumber) (t' : Chars), t = n.digits ++ t' ∧ L t' := by
  refine (reads_rep 1 none digit).congr fun L t => ?_
  constructor
  · rintro ⟨u, t', rfl, hu, hlength, hL⟩
    obtain ⟨n, rfl⟩ := runs_digit_iff.mp ⟨hu, hlength⟩
    exact ⟨n, t', rfl, hL⟩
  · rintro ⟨n, t', rfl, hL⟩
    obtain ⟨hu, hlength⟩ := runs_digit_iff.mpr ⟨n, rfl⟩
    exact ⟨_, t', rfl, hu, hlength, hL⟩

lemma reads_lastDigits :
    lastDigits.Reads fun L t => ∃ (n : LineNumber) (t' : Chars),
      t = '-' :: (n.digits ++ t') ∧ L t' := by
  refine (reads_seq (reads_charSet '-') reads_digits).congr fun L t => ?_
  constructor
  · rintro ⟨_, rfl, n, t', rfl, hL⟩
    exact ⟨n, t', rfl, hL⟩
  · rintro ⟨n, t', rfl, hL⟩
    exact ⟨_, rfl, n, t', rfl, hL⟩

/-- Digits and perhaps more of them behind a hyphen are a range of lines. -/
lemma exists_lineRange_iff {L : Chars → Prop} :
    (∃ (n : LineNumber) (t' : Chars), t = n.digits ++ t' ∧
      ((∃ (n' : LineNumber) (t'' : Chars), t' = '-' :: (n'.digits ++ t'') ∧ L t'') ∨ L t')) ↔
    ∃ (l : LineRange) (t' : Chars), t = l.chars ++ t' ∧ L t' := by
  constructor
  · rintro ⟨n, t', rfl, ⟨n', t'', rfl, hL⟩ | hL⟩
    · exact ⟨.span n n', t'', by simp [LineRange.chars], hL⟩
    · exact ⟨.one n, t', rfl, hL⟩
  · rintro ⟨n | ⟨n, n'⟩, t', rfl, hL⟩
    · exact ⟨n, t', rfl, .inr hL⟩
    · exact ⟨n, _, by simp [LineRange.chars], .inl ⟨n', t', rfl, hL⟩⟩

lemma startsReference_iff :
    StartsReference t ↔ ∃ t₁, t = '\x60' :: t₁ ∧ ∃ u t₂, t₁ = u ++ t₂ ∧ tickless.Runs none u ∧
    1 ≤ u.length ∧ ∃ t₃, t₂ = ':' :: t₃ ∧ ∃ (l : LineRange) (t₄ : Chars), t₃ = l.chars ++ t₄ ∧
      ∃ t₅, t₄ = '\x60' :: t₅ ∧ True := by
  constructor
  · rintro ⟨r, rest, hr, rfl⟩
    obtain ⟨l, hl⟩ := isRange_iff.mp hr.lines
    exact ⟨_, rfl, r.path, ':' :: (l.chars ++ '\x60' :: rest), by simp [Reference.inside, hl],
      runs_tickless_iff.mpr hr.path_plain, length_pos_iff.mpr hr.path_ne, _, rfl, l, _, rfl,
      rest, rfl, trivial⟩
  · rintro ⟨_, rfl, u, _, rfl, hu, hlength, _, rfl, l, _, rfl, rest, rfl, -⟩
    exact ⟨⟨u, l.chars⟩, rest,
      ⟨length_pos_iff.mp hlength, runs_tickless_iff.mp hu,
       isRange_chars l⟩, by simp [Reference.inside]⟩

lemma matchAt_mention_iff (c : Cursor) :
    (mentionPattern.matchAt false c).isSome = true ↔ StartsReference c.after := by
  rw [mentionPattern_eq, startsReference_iff, matchAt_isSome_iff (reads_seq (reads_charSet '\x60')
    (reads_seq (reads_rep 1 none tickless) (reads_seq (reads_charSet ':')
      ((reads_seq reads_digits (reads_seq (reads_option (by simp) (reads_group 1 reads_lastDigits))
        (reads_charSet '\x60'))).congr fun L t => exists_lineRange_iff))))]

lemma matchAt_citation_iff (c : Cursor) :
    (citationPattern.matchAt false c).isSome = true ↔ StartsReference c.after := by
  rw [citationPattern_eq, startsReference_iff, matchAt_isSome_iff (reads_seq (reads_charSet '\x60')
    (reads_seq (reads_group 1 (reads_rep 1 none tickless)) (reads_seq (reads_charSet ':')
      (reads_seq (reads_group 2
        ((reads_seq reads_digits (reads_option (by simp [lastDigits]) reads_lastDigits)).congr
        fun L t => exists_lineRange_iff)) (reads_charSet '\x60')))))]

lemma occurs_mention_iff (text : String) :
    mentionPattern.occurs text = true ↔ citationPattern.occurs text = true := by
  rw [occurs_iff matchAt_mention_iff, occurs_iff matchAt_citation_iff]

lemma exists_of_run_digits {k : Cont} {m : Captures} {e : Cursor × Captures}
    (h : digits.run k c m = some e) :
    ∃ (n : LineNumber) (t : Chars), c.after = n.digits ++ t ∧ k (c.past n.digits t) m = some e := by
  obtain ⟨u, t, hc, hu, hlength, hk⟩ := exists_of_run_rep h
  obtain ⟨n, rfl⟩ := runs_digit_iff.mp ⟨hu, hlength⟩
  exact ⟨n, t, hc, hk⟩

lemma exists_of_run_lines {k : Cont} {m : Captures} {e : Cursor × Captures}
    (h : (Node.seq digits (.rep 0 (some 1) .greedy lastDigits)).run k c m = some e) :
    ∃ u t, c.after = u ++ t ∧ isRange u = true ∧ k (c.past u t) m = some e := by
  obtain ⟨n, t, hc, h⟩ := exists_of_run_digits h
  rw [run_option (by simp [lastDigits]), Option.or_eq_some_iff] at h
  rcases h with h | ⟨-, hk⟩
  · obtain ⟨t', ht, h⟩ := exists_of_run_charSet h
    obtain ⟨n', t'', ht', hk⟩ := exists_of_run_digits h
    obtain rfl : t = '-' :: t' := ht
    obtain rfl : t' = n'.digits ++ t'' := ht'
    rw [Cursor.past_past, Cursor.past_past] at hk
    exact ⟨n.digits ++ '-' :: n'.digits, t'', by simp [hc], isRange_iff.mpr ⟨.span n n', rfl⟩, hk⟩
  · exact ⟨n.digits, t, hc, isRange_iff.mpr ⟨.one n, rfl⟩, hk⟩

lemma exists_of_matchAt_citation {mt : Match} (h : citationPattern.matchAt false c = some (mt, d)) :
    ∃ r : Reference, r.Sound ∧ c.after = '\x60' :: (r.inside ++ '\x60' :: d.after) ∧
      mt.group 1 = r.pathText ∧ mt.group 2 = r.linesText ∧ (mt.start == mt.stop) = false := by
  rw [citationPattern_eq] at h
  obtain ⟨⟨d', m⟩, hrun, heq⟩ := Option.map_eq_some_iff.mp h
  obtain ⟨rfl, rfl⟩ := Prod.mk.inj heq
  obtain ⟨t₁, hc, hpath⟩ := exists_of_run_charSet hrun
  obtain ⟨path, t₂, ht₁, ⟨hplain, hne⟩, hcolon⟩ := exists_of_run_group
    (Q := fun u => tickless.Runs none u ∧ 1 ≤ u.length)
      (fun k hk => by simpa only [and_assoc] using exists_of_run_rep hk) hpath
  obtain ⟨t₃, ht₂, hlines⟩ := exists_of_run_charSet hcolon
  obtain ⟨lines, t₄, ht₃, hrange, htick⟩ :=
    exists_of_run_group (fun k => exists_of_run_lines) hlines
  obtain ⟨t₅, ht₄, hend⟩ := exists_of_run_charSet htick
  obtain rfl : t₁ = path ++ t₂ := ht₁
  obtain rfl : t₂ = ':' :: t₃ := ht₂
  obtain rfl : t₃ = lines ++ t₄ := ht₃
  obtain rfl : t₄ = '\x60' :: t₅ := ht₄
  obtain ⟨rfl, rfl⟩ := Prod.mk.inj (Option.some.inj hend)
  refine ⟨⟨path, lines⟩, ⟨length_pos_iff.mp hne, runs_tickless_iff.mp hplain, hrange⟩,
    ?_, rfl, rfl, ?_⟩
  · simp [hc, Reference.inside, Cursor.past]
  · simp only [Cursor.past, length_cons, beq_eq_false_iff_ne]
    omega

/-- The pattern finds what the reader of references finds. -/
lemma map_matchesFrom_citation {fuel fuel' : Nat} (h : c.after.length < fuel)
    (h' : c.after.length < fuel') :
    (citationPattern.matchesFrom fuel false c).map (fun m => (m.group 1, m.group 2)) =
      (referencesFrom fuel' c.after).map fun r => (r.pathText, r.linesText) := by
  induction fuel' generalizing c fuel with
  | zero => cases h'
  | succ fuel' ih =>
    obtain ⟨fuel, rfl⟩ := Nat.exists_eq_succ_of_ne_zero (Nat.ne_of_gt (Nat.zero_lt_of_lt h))
    cases hmatch : citationPattern.matchAt false c with
    | some found =>
      obtain ⟨mt, d⟩ := found
      obtain ⟨r, hr, hc, hpath, hlines, hmoves⟩ := exists_of_matchAt_citation hmatch
      have hopen : openReference? (r.inside ++ '\x60' :: d.after) = some (r, d.after) :=
        openReference?_eq_some_iff.mpr ⟨hr, rfl⟩
      have hlength : d.after.length < c.after.length := by
        simp [hc]
        omega
      rw [matchesFrom_match hmatch, hmoves, map_cons,
        ih (show d.after.length < fuel by omega) (by omega), hpath, hlines, hc, referencesFrom]
      simp [hopen]
    | none =>
      have hnone : ¬ StartsReference c.after := by rw [← matchAt_citation_iff, hmatch]; simp
      cases hc : c.after with
      | nil => simp [Node.matchesFrom, hc, Node.searchFrom, hmatch, referencesFrom]
      | cons x t =>
        have hnext : c.next.after = t := by simp [Cursor.next, hc]
        have hlength : c.next.after.length < c.after.length := by simp [hnext, hc]
        have hskip : referencesFrom (fuel' + 1) (x :: t) = referencesFrom fuel' t := by
          rw [referencesFrom]
          split_ifs with hx
          · split
            · next r rest hopen =>
              obtain ⟨hr, rfl⟩ := openReference?_eq_some_iff.mp hopen
              exact absurd ⟨r, rest, hr, by rw [hc, beq_iff_eq.mp hx]⟩ hnone
            · rfl
          · rfl
        rw [matchesFrom_next hc hmatch,
          ih (show c.next.after.length < fuel + 1 by omega) (by omega), hskip, hnext]

/-- The pattern of citations finds the references, and nothing else. -/
theorem map_all_citation (text : String) :
    (citationPattern.all text).map (fun m => (m.group 1, m.group 2)) =
      (references text).map fun r => (r.pathText, r.linesText) := by
  have hlength : (Cursor.ofText text.toList).after.length = text.length := String.length_toList
  exact map_matchesFrom_citation (by omega) (by omega)

/-! ### References that are written -/

/-- A reference and the text before it. -/
structure Cited where
  prose : String
  path : String
  lines : LineRange
  prose_plain : '\x60' ∉ prose.toList
  path_ne : path ≠ ""
  path_plain : '\x60' ∉ path.toList

namespace Cited

def reference (c : Cited) : Reference := ⟨c.path.toList, c.lines.chars⟩

def text (c : Cited) : String := c.prose ++ c.reference.text

lemma sound (c : Cited) : c.reference.Sound :=
  ⟨by simpa [reference] using c.path_ne, c.path_plain, isRange_chars c.lines⟩

end Cited

/-- Prose with references in it. -/
def passage (cs : List Cited) (last : String) : String := String.join (cs.map Cited.text) ++ last

lemma referencesFrom_skip {u : Chars} {fuel : Nat} (hu : '\x60' ∉ u)
    (hfuel : (u ++ s).length < fuel) :
    ∃ fuel', s.length < fuel' ∧ referencesFrom fuel (u ++ s) = referencesFrom fuel' s := by
  induction u generalizing fuel with
  | nil => exact ⟨fuel, hfuel, rfl⟩
  | cons x u ih =>
    obtain ⟨hx, hu⟩ := not_or.mp (mem_cons.not.mp hu)
    obtain ⟨fuel, rfl⟩ := Nat.exists_eq_succ_of_ne_zero (Nat.ne_of_gt (Nat.zero_lt_of_lt hfuel))
    obtain ⟨fuel', hfuel', heq⟩ := ih hu (by simpa using hfuel)
    refine ⟨fuel', hfuel', ?_⟩
    rw [cons_append, referencesFrom, if_neg (by simpa using Ne.symm hx), heq]

lemma Reference.toList_text (r : Reference) : r.text.toList = '\x60' :: (r.inside ++ ['\x60']) := by
  have htext : r.text = "\x60" ++ r.pathText ++ ":" ++ r.linesText ++ "\x60" := rfl
  simp [htext, Reference.inside, Reference.pathText, Reference.linesText]

lemma referencesFrom_reference (hr : r.Sound) (fuel : Nat) (s : Chars) :
    referencesFrom (fuel + 1) (r.text.toList ++ s) = r :: referencesFrom fuel s := by
  have hopen : openReference? (r.inside ++ '\x60' :: s) = some (r, s) :=
    openReference?_eq_some_iff.mpr ⟨hr, rfl⟩
  rw [Reference.toList_text, cons_append, append_assoc, singleton_append, referencesFrom]
  simp [hopen]

lemma referencesFrom_passage (cs : List Cited) {last : String}
    (hlast : '\x60' ∉ last.toList) {fuel : Nat} (hfuel : (passage cs last).toList.length < fuel) :
    referencesFrom fuel (passage cs last).toList = cs.map Cited.reference := by
  induction cs generalizing fuel with
  | nil =>
    obtain ⟨fuel', -, heq⟩ := referencesFrom_skip (s := []) hlast (by simpa [passage] using hfuel)
    have hnone : referencesFrom fuel' [] = [] := by cases fuel' <;> rfl
    simpa [passage, hnone] using heq
  | cons c cs ih =>
    have hparts : (passage (c :: cs) last).toList =
        c.prose.toList ++ (c.reference.text.toList ++ (passage cs last).toList) := by
      simp [passage, Cited.text]
    rw [hparts] at hfuel ⊢
    obtain ⟨fuel', hfuel', heq⟩ := referencesFrom_skip c.prose_plain hfuel
    obtain ⟨fuel', rfl⟩ := Nat.exists_eq_succ_of_ne_zero (Nat.ne_of_gt (Nat.zero_lt_of_lt hfuel'))
    have hshort : (passage cs last).toList.length < fuel' := by
      rw [length_append, Reference.toList_text, length_cons] at hfuel'
      omega
    rw [heq, referencesFrom_reference c.sound, ih hshort, map_cons]

/-- The readers of file references agree: the pattern of the citations finds the paths and lines of
the references, the citations list those references whatever becomes of their web part, and the
check on standards asks whether there are any.  In prose without backquotes that holds references
of sound shape, these are read, in their order, and nothing else. -/
theorem citation_readers_agree :
    (∀ text, (citationPattern.all text).map (fun m => (m.group 1, m.group 2)) =
        (references text).map (fun r => (r.pathText, r.linesText)) ∧
      (citations text).map Citations.files = (webCitations text).map (fun _ => references text) ∧
      (mentionPattern.occurs text = true ↔ references text ≠ []) ∧
      (standards text).lookup "has_file_references" = some (mentionPattern.occurs text)) ∧
    ∀ (cs : List Cited) (last : String), '\x60' ∉ last.toList →
      references (passage cs last) = cs.map Cited.reference := by
  have hmention : ∀ text, mentionPattern.occurs text = true ↔ references text ≠ [] := by
    intro text
    have hnil : citationPattern.all text = [] ↔ references text = [] := by
      rw [← map_eq_nil_iff, map_all_citation, map_eq_nil_iff]
    rw [occurs_mention_iff, ← all_ne_nil_iff, ne_eq, hnil]
  refine ⟨fun text => ⟨map_all_citation text, ?_, hmention text, ?_⟩, fun cs last hlast => ?_⟩
  · rw [citations]
    cases webCitations text <;> rfl
  · have hhas : hasReferences text = mentionPattern.occurs text := by
      rw [Bool.eq_iff_iff, hmention, hasReferences]
      simp
    rw [← hhas]
    rfl
  · exact referencesFrom_passage cs hlast (Nat.lt_succ_of_le String.length_toList.le)

/-- A path that looks like a reference, and a reference right behind another one. -/
theorem references_in_passage : references "See \x60x:12:3-4\x60\x60a b:7\x60." =
    [⟨['x', ':', '1', '2'], ['3', '-', '4']⟩, ⟨['a', ' ', 'b'], ['7']⟩] := by
  let cs : List Cited :=
    [⟨"See ", "x:12", .span (lineNumber '3' (by decide))
      (lineNumber '4' (by decide)), by decide, by decide, by decide⟩,
     ⟨"", "a b", .one (lineNumber '7' (by decide)), by decide, by decide, by decide⟩]
  have htext : passage cs "." = "See \x60x:12:3-4\x60\x60a b:7\x60." := by decide +kernel
  have hread := citation_readers_agree.2 cs "." (by decide)
  rw [htext] at hread
  exact hread

/-! ### Blocks of code with their sources -/

/-- The word before a source. -/
def sourceWord : Chars := ['S', 'o', 'u', 'r', 'c', 'e', ':']

/-- A block of code and the place that the line below it names. -/
structure Sourced where
  label : String
  code : String
  path : String
  line : LineNumber
  label_word : ∀ c ∈ label.toList, isWord c = true
  code_plain : '\x60' ∉ code.toList
  path_ne : path ≠ ""
  path_plain : '\x60' ∉ path.toList

namespace Sourced

def reference (b : Sourced) : Reference := ⟨b.path.toList, b.line.digits⟩

/-- The source of a block. -/
def source (b : Sourced) : String := b.path ++ ":" ++ .ofList b.line.digits

def text (b : Sourced) : String :=
  "```" ++ b.label ++ "\n" ++ b.code ++ "```" ++ "\nSource: `" ++ b.source ++ "`\n"

/-- How far it is from the block's first character to the last one of its source. -/
def reach (b : Sourced) : Nat := b.label.length + b.code.length + b.source.length + 18

/-- Two blocks are written alike. -/
def alike (b b' : Sourced) : Bool := b.label == b'.label && b.code == b'.code

variable (b b' : Sourced)

/-- The block as it is looked for. -/
def block : Chars := Markdown.fence ++ b.label.toList ++ '\n' :: b.code.toList ++ Markdown.fence

/-- The line that names the source, up to the last character of the source. -/
def naming : Chars := sourceWord ++ ' ' :: '\x60' :: b.reference.inside

/-- What stands below the block. -/
def below : Chars := '\n' :: (b.naming ++ ['\x60', '\n'])

lemma sound : b.reference.Sound :=
  ⟨by simpa [reference] using b.path_ne, b.path_plain, isRange_iff.mpr ⟨.one b.line, rfl⟩⟩

lemma toList_source : b.source.toList = b.reference.inside := by
  simp [source, reference, Reference.inside]

lemma toList_text : b.text.toList = b.block ++ b.below := by
  rw [text, block, below, naming, ← toList_source, sourceWord, Markdown.fence]
  simp only [String.toList_append, String.reduceToList, append_assoc, cons_append, nil_append]

end Sourced

/-- Blocks with their sources. -/
def pages (bs : List Sourced) : String := String.join (bs.map Sourced.text)

lemma toList_pages_cons (b : Sourced) (bs : List Sourced) :
    (pages (b :: bs)).toList = b.block ++ (b.below ++ (pages bs).toList) := by
  simp [pages, Sourced.toList_text]

lemma pages_append (bs bs' : List Sourced) : pages (bs ++ bs') = pages bs ++ pages bs' := by
  simp [pages]

/-- A text is cut at the first character of a kind in one way. -/
lemma eq_of_cut {x : Char} {u u' v v' : Chars} (hu : x ∉ u) (hu' : x ∉ u')
    (h : u ++ x :: v = u' ++ x :: v') :
    u = u' ∧ v = v' := by
  obtain ⟨y, htake, hdrop⟩ := (cut_iff (v := v)).mpr ⟨hu, rfl⟩
  obtain ⟨y', htake', hdrop'⟩ := (cut_iff (v := v')).mpr ⟨hu', rfl⟩
  rw [h] at htake hdrop
  exact ⟨htake.symm.trans htake', (cons.inj (hdrop.symm.trans hdrop')).2⟩

/-! ### Where a source begins -/

/-- What follows is the word for a source, perhaps blanks, and a reference. -/
def StartsSource (r : Reference) (t : Chars) : Prop :=
  ∃ blanks rest, (∀ c ∈ blanks, isBlank c = true) ∧ r.Sound ∧
    t = sourceWord ++ (blanks ++ '\x60' :: (r.inside ++ '\x60' :: rest))

/-- In a text followed by `s`, no source begins in `u`. -/
def NotSourced (u s : Chars) : Prop := ∀ t, t ≠ [] → t <:+ u → ∀ r, ¬ StartsSource r (t ++ s)

lemma sourceFrom_of_starts (h : StartsSource r t) (fuel : Nat) :
    sourceFrom (fuel + 1) t = some s!"{r.pathText}:{r.linesText}" := by
  obtain ⟨blanks, rest, hblanks, hr, rfl⟩ := h
  have hend : ∀ c ∈ ('\x60' :: (r.inside ++ '\x60' :: rest)).head?, isBlank c = false := by
    rintro c ⟨⟩
    decide
  have hword : dropFront? "Source:".toList
      (sourceWord ++ (blanks ++ '\x60' :: (r.inside ++ '\x60' :: rest))) =
      some (blanks ++ '\x60' :: (r.inside ++ '\x60' :: rest)) := dropFront?_append _ _
  have hopen : openReference? (r.inside ++ '\x60' :: rest) = some (r, rest) :=
    openReference?_eq_some_iff.mpr ⟨hr, rfl⟩
  rw [sourceWord, cons_append] at hword ⊢
  simp only [sourceFrom, hword, dropWhile_run hblanks hend, hopen]

lemma sourceFrom_cons {c : Char} (h : ∀ r, ¬ StartsSource r (c :: s)) (fuel : Nat) :
    sourceFrom (fuel + 1) (c :: s) = sourceFrom fuel s := by
  rw [sourceFrom]
  split
  · next rest hword =>
    split
    · next inside hinside =>
      split
      · next r rest' hopen =>
        obtain ⟨hr, rfl⟩ := openReference?_eq_some_iff.mp hopen
        refine absurd ⟨rest.takeWhile isBlank, rest', fun c => mem_takeWhile_imp, hr, ?_⟩ (h r)
        rw [← hinside, takeWhile_append_dropWhile]
        exact eq_append_of_dropFront? hword
      · rfl
    · rfl
  · rfl

lemma notSourced_cons {c : Char} :
    NotSourced (c :: u) s ↔ (∀ r, ¬ StartsSource r (c :: (u ++ s))) ∧ NotSourced u s := by
  constructor
  · intro h
    refine ⟨h (c :: u) (by simp) suffix_rfl, fun t ht hsuffix => ?_⟩
    exact h t ht (hsuffix.trans (suffix_cons c u))
  · rintro ⟨hfirst, hrest⟩ t ht hsuffix
    rcases suffix_cons_iff.mp hsuffix with rfl | hsuffix
    · exact hfirst
    · exact hrest t ht hsuffix

lemma notSourced_append : NotSourced (u ++ v) s ↔ NotSourced u (v ++ s) ∧ NotSourced v s := by
  induction u with
  | nil => simp +contextual [NotSourced]
  | cons c u ih => simp only [cons_append, notSourced_cons, ih, append_assoc, and_assoc]

lemma exists_sourceFrom_skip (h : NotSourced u s) (hfuel : (u ++ s).length < fuel) :
    ∃ fuel', s.length < fuel' ∧ sourceFrom fuel (u ++ s) = sourceFrom fuel' s := by
  induction u generalizing fuel with
  | nil => exact ⟨fuel, hfuel, rfl⟩
  | cons c u ih =>
    obtain ⟨hfirst, hrest⟩ := notSourced_cons.mp h
    obtain ⟨fuel, rfl⟩ := Nat.exists_eq_succ_of_ne_zero (Nat.ne_of_gt (Nat.zero_lt_of_lt hfuel))
    obtain ⟨fuel', hfuel', heq⟩ := ih hrest (by simpa using hfuel)
    refine ⟨fuel', hfuel', ?_⟩
    rw [cons_append, ← heq]
    exact sourceFrom_cons hfirst fuel

lemma sourceFrom_eq_none (h : NotSourced u []) (hfuel : u.length < fuel) :
    sourceFrom fuel u = none := by
  obtain ⟨fuel', -, heq⟩ := exists_sourceFrom_skip h (by simpa using hfuel)
  rw [append_nil] at heq
  rw [heq]
  cases fuel' <;> rfl

/-! Three reasons why no source begins. -/

lemma notSourced_of_ne (h : 'S' ∉ u) (s : Chars) : NotSourced u s := by
  rintro t ht hsuffix r ⟨blanks, rest, -, -, heq⟩
  obtain ⟨c, t, rfl⟩ := exists_cons_of_ne_nil ht
  obtain rfl : c = 'S' := (cons.inj heq).1
  exact h (hsuffix.subset mem_cons_self)

/-- A source holds two backticks. -/
lemma notSourced_of_count (h : u.count '\x60' ≤ 1) : NotSourced u [] := by
  rintro t - hsuffix r ⟨blanks, rest, -, -, heq⟩
  have htwo : 2 ≤ t.count '\x60' := by
    rw [← append_nil t, heq]
    simp only [count_append, count_cons_self]
    omega
  have := hsuffix.sublist.count_le '\x60'
  omega

lemma Reference.Sound.exists_cons (h : r.Sound) : ∃ c i, r.inside = c :: i ∧ c ≠ '\x60' := by
  obtain ⟨c, path, hpath⟩ := exists_cons_of_ne_nil h.path_ne
  refine ⟨c, path ++ ':' :: r.lines, by rw [Reference.inside, hpath, cons_append], ?_⟩
  rintro rfl
  exact h.path_plain (hpath ▸ mem_cons_self)

/-- The backtick that opens a source is not followed by another one. -/
lemma notSourced_of_fence (hu : '\x60' ∉ u) (hs : ∀ c ∈ s.take 2, c = '\x60') : NotSourced u s := by
  rintro t - hsuffix r ⟨blanks, rest, hblanks, hr, heq⟩
  have ht : '\x60' ∉ t := fun h => hu (hsuffix.subset h)
  have hfront : '\x60' ∉ sourceWord ++ blanks := by
    rw [mem_append, not_or]
    refine ⟨by decide, fun h => ?_⟩
    exact absurd (hblanks _ h) (by decide)
  obtain ⟨c, i, hinside, hc⟩ := hr.exists_cons
  rw [← append_assoc, hinside] at heq
  rcases s with _ | ⟨x, s⟩
  · refine ht ?_
    rw [← append_nil t, heq]
    simp
  · obtain rfl : x = '\x60' := hs x (by simp)
    obtain ⟨-, rfl⟩ := eq_of_cut ht hfront heq
    exact hc (hs c (by simp))

namespace Sourced

variable (b b' : Sourced)

/-- What stands between the two fences. -/
def body : Chars := b.label.toList ++ '\n' :: b.code.toList

lemma block_eq : b.block = Markdown.fence ++ (b.body ++ Markdown.fence) := by simp [block, body]

lemma body_plain : '\x60' ∉ b.body := by
  have hlabel : '\x60' ∉ b.label.toList := fun h => absurd (b.label_word _ h) (by decide)
  simp [body, hlabel, b.code_plain]

lemma reach_eq : b.reach = (b.block ++ '\n' :: b.naming).length + 1 := by
  have hsource : b.source.length = b.reference.inside.length := by
    rw [← toList_source, String.length_toList]
  rw [reach, hsource, block_eq, body, naming]
  simp only [Markdown.fence, sourceWord, length_append, length_cons, length_nil,
    String.length_toList]
  omega

lemma block_append_below (s : Chars) :
    b.block ++ (b.below ++ s) = (b.block ++ '\n' :: b.naming) ++ '\x60' :: '\n' :: s := by
  simp [below]

lemma sourceFrom_whole (fuel : Nat) (s : Chars)
    (hfuel : ((b.block ++ '\n' :: b.naming) ++ '\x60' :: s).length < fuel) :
    sourceFrom fuel ((b.block ++ '\n' :: b.naming) ++ '\x60' :: s) = some b.source := by
  have hfence : 'S' ∉ Markdown.fence := by decide
  have hskip : NotSourced (b.block ++ ['\n']) (b.naming ++ '\x60' :: s) := by
    rw [block_eq]
    simp only [notSourced_append]
    refine ⟨⟨notSourced_of_ne hfence _, notSourced_of_fence b.body_plain ?_,
      notSourced_of_ne hfence _⟩, notSourced_of_ne (by decide) _⟩
    simp [Markdown.fence]
  have hstarts : StartsSource b.reference (b.naming ++ '\x60' :: s) :=
    ⟨[' '], s, by simp; decide, b.sound, by simp [naming]⟩
  rw [append_assoc, cons_append, ← singleton_append, ← append_assoc] at hfuel ⊢
  obtain ⟨fuel', hfuel', heq⟩ := exists_sourceFrom_skip hskip hfuel
  obtain ⟨fuel', rfl⟩ := Nat.exists_eq_succ_of_ne_zero (Nat.ne_of_gt (Nat.zero_lt_of_lt hfuel'))
  have htext : b.source = b.reference.pathText ++ ":" ++ b.reference.linesText := by
    rw [source, Reference.pathText, Reference.linesText, reference, String.ofList_toList]
  rw [heq, sourceFrom_of_starts hstarts, htext]
  rfl

lemma sourceFrom_cut (n fuel : Nat) (hfuel : ((b.block ++ '\n' :: b.naming).take n).length < fuel) :
    sourceFrom fuel ((b.block ++ '\n' :: b.naming).take n) = none := by
  refine sourceFrom_eq_none ?_ hfuel
  have hfence : ∀ k, 'S' ∉ Markdown.fence.take k :=
    fun k h => absurd (mem_of_mem_take h) (by decide)
  rw [block_eq, append_assoc, append_assoc, List.take_append, List.take_append, List.take_append]
  simp only [notSourced_append]
  refine ⟨notSourced_of_ne (hfence _) _, notSourced_of_fence
    (fun h => b.body_plain (mem_of_mem_take h)) ?_, notSourced_of_ne (hfence _) _,
    notSourced_of_count ?_⟩
  · generalize n - Markdown.fence.length - b.body.length = k
    rcases k with _ | _ | k <;> simp [Markdown.fence]
  · have hone : ('\n' :: b.naming).count '\x60' = 1 := by
      simp [naming, sourceWord, count_eq_zero_of_not_mem b.sound.plain]
    refine le_trans ((take_sublist _ _).count_le _) hone.le

/-- The source is found if it stands whole in the stretch that is looked through. -/
lemma sourceFrom_take (n : Nat) (s : Chars) :
    sourceFrom (((b.block ++ (b.below ++ s)).take n).length + 1)
      ((b.block ++ (b.below ++ s)).take n) =
      if b.reach ≤ n then some b.source else none := by
  rw [block_append_below]
  split_ifs with hreach
  · obtain ⟨k, rfl⟩ := Nat.exists_eq_add_of_le hreach
    have hwhole : ((b.block ++ '\n' :: b.naming) ++ '\x60' :: '\n' :: s).take (b.reach + k) =
        (b.block ++ '\n' :: b.naming) ++ '\x60' :: ('\n' :: s).take k := by
      rw [reach_eq, Nat.add_assoc, take_length_add_append, Nat.add_comm 1 k, take_succ_cons]
    rw [hwhole]
    exact b.sourceFrom_whole _ _ (Nat.lt_succ_self _)
  · rw [reach_eq] at hreach
    rw [take_append_of_le_length (by omega)]
    exact b.sourceFrom_cut n _ (Nat.lt_succ_self _)

end Sourced

/-! ### The blocks of the pages -/

lemma notWithin_ticks {u : Chars} (hne : u ≠ []) (hu : '\x60' ∉ u) (s : Chars) :
    NotWithin Markdown.fence ['\x60', '\x60'] (u ++ s) := by
  obtain ⟨c, u, rfl⟩ := exists_cons_of_ne_nil hne
  have hc : '\x60' ≠ c := fun h => hu (h ▸ mem_cons_self)
  simp [notWithin_cons, notWithin_nil, Markdown.fence, cons_prefix_cons, hc]

namespace Sourced

variable (b b' : Sourced)

/-- No three backticks stand together below a block. -/
lemma notWithin_below (s : Chars) : NotWithin Markdown.fence b.below s := by
  have hlead : '\x60' ∉ '\n' :: (sourceWord ++ [' ']) := by decide
  have hbelow : b.below = '\n' :: (sourceWord ++ [' ']) ++
      '\x60' :: (b.reference.inside ++ '\x60' :: ['\n']) := by
    simp [below, naming]
  have hopen : NotWithin Markdown.fence ['\x60'] (b.reference.inside ++ ('\x60' :: ['\n'] ++ s)) :=
    (notWithin_cons.mp (notWithin_ticks (by simp [Reference.inside]) b.sound.plain _)).2
  have hclose : NotWithin Markdown.fence ['\x60'] (['\n'] ++ s) :=
    (notWithin_cons.mp (notWithin_ticks (by simp) (by decide) s)).2
  rw [hbelow]
  refine notWithin_append.mpr ⟨notWithin_of_notMem hlead _ _, ?_⟩
  rw [← singleton_append, ← singleton_append (l := ['\n'])]
  refine notWithin_append.mpr ⟨?_, notWithin_append.mpr ⟨notWithin_of_notMem b.sound.plain _ _,
    notWithin_append.mpr ⟨hclose, notWithin_of_notMem (by decide) _ _⟩⟩⟩
  simpa using hopen

lemma alike_of_isPrefix {b x : Sourced} {s : Chars} (h : b.block <+: x.block ++ s) :
    b.alike x = true := by
  obtain ⟨t, ht⟩ := h
  have hopen : ∀ (x : Sourced) s,
      Markdown.openBlock? (x.block ++ s) = some (x.label.toList, x.code.toList, s) := by
    intro x s
    rw [← Markdown.openBlock?_block x.label_word x.code_plain]
    simp [block]
  have hsame := hopen b t
  rw [ht, hopen x s] at hsame
  obtain ⟨hlabel, hcode, -⟩ : x.label.toList = b.label.toList ∧
      x.code.toList = b.code.toList ∧ s = t := by
    simpa using hsame
  simp [alike, String.toList_inj.mp hlabel, String.toList_inj.mp hcode]

/-- Code that began behind the block would end at the backtick of the source, and no fence stands
there. -/
lemma not_isPrefix_closing (b x : Sourced) (s : Chars) :
    ¬ b.block <+: Markdown.fence ++ (x.below ++ s) := by
  rintro ⟨t, ht⟩
  have hbody : b.body ++ '\x60' :: ('\x60' :: '\x60' :: t) =
      ('\n' :: sourceWord ++ [' ']) ++ '\x60' :: (x.reference.inside ++ '\x60' :: '\n' :: s) := by
    rw [block_eq, append_assoc, append_cancel_left_eq] at ht
    simpa [Markdown.fence, below, naming] using ht
  obtain ⟨-, hrest⟩ := eq_of_cut b.body_plain (by decide) hbody
  obtain ⟨c, i, hinside, hc⟩ := x.sound.exists_cons
  rw [hinside] at hrest
  exact hc (cons.inj hrest).1.symm

lemma fence_isPrefix_block : Markdown.fence <+: b.block :=
  ⟨b.body ++ Markdown.fence, (b.block_eq).symm⟩

lemma notWithin_text {b x : Sourced} (h : b.alike x = false) (s : Chars) :
    NotWithin b.block (x.block ++ x.below) s := by
  have hfence : ∀ {u s}, NotWithin Markdown.fence u s → NotWithin b.block u s :=
    fun hu t ht hsuffix hfront => hu t ht hsuffix (b.fence_isPrefix_block.trans hfront)
  have hopening : ¬ b.block <+: Markdown.fence ++
      (x.body ++ (Markdown.fence ++ (x.below ++ s))) := by
    intro hfront
    rw [← append_assoc x.body, ← append_assoc Markdown.fence, ← block_eq] at hfront
    simp [alike_of_isPrefix hfront] at h
  have hclosing : ¬ b.block <+: Markdown.fence ++ (x.below ++ s) := not_isPrefix_closing b x s
  have hparts : x.block ++ x.below = Markdown.fence ++ (x.body ++ (Markdown.fence ++ x.below)) := by
    rw [block_eq, append_assoc, append_assoc]
  rw [hparts]
  simp only [notWithin_append, append_assoc]
  refine ⟨notWithin_cons.mpr ⟨hopening, hfence (notWithin_ticks (by simp [body]) x.body_plain _)⟩,
    hfence (notWithin_of_notMem x.body_plain _ _), notWithin_cons.mpr ⟨hclosing, hfence ?_⟩,
    hfence (x.notWithin_below s)⟩
  exact notWithin_ticks (u := ['\n']) (by simp) (by decide) (x.naming ++ ['\x60', '\n'] ++ s)

lemma notWithin_pages {b : Sourced} {bs : List Sourced}
    (h : ∀ x ∈ bs, b.alike x = false) (s : Chars) :
    NotWithin b.block (pages bs).toList s := by
  induction bs with
  | nil => exact notWithin_nil _ _
  | cons x bs ih =>
    obtain ⟨hx, hbs⟩ := forall_mem_cons.mp h
    rw [toList_pages_cons, ← append_assoc, notWithin_append]
    exact ⟨notWithin_text hx _, ih hbs⟩

lemma alike_iff {b b' : Sourced} : b.alike b' = true ↔ b.label = b'.label ∧ b.code = b'.code := by
  simp [alike]

lemma block_eq_of_alike {b b' : Sourced} (h : b.alike b' = true) : b'.block = b.block := by
  obtain ⟨hlabel, hcode⟩ := alike_iff.mp h
  rw [block, block, hlabel, hcode]

/-- The place of a block is that of the first block like it. -/
lemma blockSource_pages {b b' : Sourced} {bs : List Sourced} (h : bs.find? b.alike = some b')
    (start stop : Nat) :
    blockSource (pages bs) ⟨start, stop, b.label.toList, b.code.toList⟩ =
      if b'.reach ≤ sourceReach then some b'.source else none := by
  obtain ⟨halike, front, back, rfl, hfront⟩ := find?_eq_some_iff_append.mp h
  have hpages : (pages (front ++ b' :: back)).toList =
      (pages front).toList ++ (b.block ++ (b'.below ++ (pages back).toList)) := by
    rw [pages_append, String.toList_append, toList_pages_cons, block_eq_of_alike halike]
  have hfind : findFrom b.block 0 (pages (front ++ b' :: back)).toList =
      some (0 + (pages front).toList.length) := by
    rw [hpages]
    exact findFrom_first (by simp [block]) (notWithin_pages (by simpa using hfront) _) 0
  show (findFrom b.block 0 _ >>= fun start => _) = _
  rw [hfind, hpages, Nat.zero_add, ← block_eq_of_alike halike, ← sourceFrom_take b' sourceReach
    (pages back).toList]
  show sourceFrom _ _ = _
  rw [drop_left]

end Sourced

lemma contents_blocksFrom (bs : List Sourced) (pos : Nat)
    (hfuel : (pages bs).toList.length < fuel) :
    (Markdown.blocksFrom fuel pos (pages bs).toList).map (fun b => (b.label, b.code)) =
      bs.map fun b => (b.label.toList, b.code.toList) := by
  induction bs generalizing fuel pos with
  | nil => cases fuel <;> rfl
  | cons b bs ih =>
    obtain ⟨fuel, rfl⟩ := Nat.exists_eq_succ_of_ne_zero (Nat.ne_of_gt (Nat.zero_lt_of_lt hfuel))
    have hparts : (pages (b :: bs)).toList = Markdown.fence ++
        (b.label.toList ++ '\n' :: (b.code.toList ++
        (Markdown.fence ++ (b.below ++ (pages bs).toList)))) := by
      rw [toList_pages_cons, Sourced.block]
      simp
    rw [hparts] at hfuel ⊢
    obtain ⟨stop, hblock⟩ := Markdown.exists_blocksFrom_block fuel pos
      (b.below ++ (pages bs).toList) b.label_word b.code_plain
    have hshort : (b.below ++ (pages bs).toList).length < fuel := by
      simp only [length_append, length_cons] at hfuel ⊢
      omega
    obtain ⟨fuel', pos', hfuel', hskip⟩ :=
      Markdown.exists_blocksFrom_skip stop (b.notWithin_below _) hshort
    rw [hblock, hskip, map_cons, map_cons, ih pos' hfuel']

/-- The source that a block is given: that of the first block like it, if it is near enough. -/
def sourceAmong (bs : List Sourced) (b : Sourced) : Option String :=
  (bs.find? b.alike).bind fun b' => if b'.reach ≤ sourceReach then some b'.source else none

lemma exists_find?_alike {b : Sourced} {bs : List Sourced} (hb : b ∈ bs) :
    ∃ b', bs.find? b.alike = some b' :=
  Option.isSome_iff_exists.mp (find?_isSome.mpr ⟨b, hb, Sourced.alike_iff.mpr ⟨rfl, rfl⟩⟩)

lemma sourceAmong_eq_some_iff {b b' : Sourced} {bs : List Sourced} (h : bs.find? b.alike = some b')
    (source : String) :
    sourceAmong bs b = some source ↔ b'.reach ≤ sourceReach ∧ b'.source = source := by
  rw [sourceAmong, h, Option.bind_some]
  split_ifs with hreach <;> simp [hreach]

lemma sources_pages (bs : List Sourced) :
    (codeCitations (pages bs)).map CodeCitation.source = bs.map (sourceAmong bs) := by
  have hlength : (pages bs).toList.length < (pages bs).length + 1 :=
    Nat.lt_succ_of_le String.length_toList.le
  have hcontents := contents_blocksFrom bs 0 hlength
  calc (codeCitations (pages bs)).map CodeCitation.source
      = ((Markdown.blocks (pages bs)).map fun b => (b.label, b.code)).map
          fun c => blockSource (pages bs) ⟨0, 0, c.1, c.2⟩ := by
        rw [codeCitations, map_map, map_map]
        rfl
    _ = bs.map fun b => blockSource (pages bs) ⟨0, 0, b.label.toList, b.code.toList⟩ := by
        rw [Markdown.blocks, hcontents, map_map]
        rfl
    _ = bs.map (sourceAmong bs) := by
        refine map_congr_left fun b hb => ?_
        obtain ⟨b', hfind⟩ := exists_find?_alike hb
        rw [Sourced.blockSource_pages hfind, sourceAmong, hfind, Option.bind_some]

/-- One citation is made for each block.  Each has the source below its own block exactly if every
source is near enough to the start of its block, and blocks that are written alike name the same
source. -/
theorem sources_own_iff (bs : List Sourced) :
    (codeCitations (pages bs)).map CodeCitation.source = bs.map (sourceAmong bs) ∧
      ((codeCitations (pages bs)).map CodeCitation.source = bs.map (fun b => some b.source) ↔
        (∀ b ∈ bs, b.reach ≤ sourceReach) ∧ ∀ b ∈ bs, ∀ b' ∈ bs, b.alike b' = true →
          b.source = b'.source) := by
  refine ⟨sources_pages bs, ?_⟩
  rw [sources_pages, map_inj_left]
  constructor
  · intro h
    have hfirst : ∀ b ∈ bs, ∃ b',
        bs.find? b.alike = some b' ∧ b'.reach ≤ sourceReach ∧ b'.source = b.source := by
      intro b hb
      obtain ⟨b', hfind⟩ := exists_find?_alike hb
      exact ⟨b', hfind, (sourceAmong_eq_some_iff hfind _).mp (h b hb)⟩
    constructor
    · intro b hb
      obtain ⟨b', hfind, hreach, hsource⟩ := hfirst b hb
      obtain ⟨hlabel, hcode⟩ := Sourced.alike_iff.mp (find?_some hfind)
      rwa [Sourced.reach, hlabel, hcode, ← hsource]
    · intro b hb b' hb' halike
      obtain ⟨hlabel, hcode⟩ := Sourced.alike_iff.mp halike
      have hsame : b.alike = b'.alike := by
        funext x
        rw [Sourced.alike, Sourced.alike, hlabel, hcode]
      obtain ⟨x, hfind, -, hsource⟩ := hfirst b hb
      obtain ⟨x', hfind', -, hsource'⟩ := hfirst b' hb'
      obtain rfl : x = x' := Option.some.inj (by rw [← hfind, ← hfind', hsame])
      rw [← hsource, hsource']
  · rintro ⟨hreach, hsame⟩ b hb
    obtain ⟨b', hfind⟩ := exists_find?_alike hb
    have hb' : b' ∈ bs := mem_of_find?_eq_some hfind
    exact (sourceAmong_eq_some_iff hfind _).mpr
      ⟨hreach b' hb', (hsame b hb b' hb' (find?_some hfind)).symm⟩

/-- Two blocks with the same code and different sources. -/
def twins : List Sourced :=
  [⟨"py", "x", "a", lineNumber '1' (by decide),
    forall_mem_of_all (by decide), by decide, by decide, by decide⟩,
   ⟨"py", "x", "b", lineNumber '2' (by decide),
    forall_mem_of_all (by decide), by decide, by decide, by decide⟩]

/-- Two blocks that are written alike are given the source of the first. -/
theorem alike_blocks_share_source :
    pages twins = "```py\nx```\nSource: `a:1`\n```py\nx```\nSource: `b:2`\n" ∧
    (codeCitations (pages twins)).map CodeCitation.source = [some "a:1", some "a:1"] := by
  refine ⟨by decide +kernel, ?_⟩
  rw [(sources_own_iff twins).1]
  decide +kernel

end Workbench.Research
