import Mathlib.Data.List.Forall2
import Workbench.Proofs.Text.Trim
import Workbench.Proofs.Value.Entries

/-!
# Reading back written JSON

A document written by `Json.write` is read by `Json.readValue` as the value it was written from.
-/

open List Nat

open String hiding append_assoc join length_append

namespace Workbench.Json

open Text Decimal

variable {rest ds s : Chars} {c : Char} {l : Layout} {text : String} {parts : List String}
  {es : List (String × Value)}

/-! ### Escapes -/

lemma hexValue?_hexDigit : ∀ n < 16, hexValue? (hexDigit n) = some n := by
  decide

lemma hex_four (n : Nat) : hex 4 n = [hexDigit (n / 16 / 16 / 16 % 16), hexDigit (n / 16 / 16 % 16),
      hexDigit (n / 16 % 16), hexDigit (n % 16)] := by
  simp [hex]

lemma hex4?_hex {n : Nat} (h : n < 65536) : hex4? (hex 4 n) = some n := by
  have hdigit : ∀ k, hexValue? (hexDigit (k % 16)) = some (k % 16) :=
    fun k => hexValue?_hexDigit _ (mod_lt _ (by omega))
  rw [hex_four]
  simp only [hex4?, hdigit, Option.pure_def, Option.bind_eq_bind, Option.bind_some,
    Option.some.injEq]
  omega

lemma length_hex (width n : Nat) : (hex width n).length = width := by
  induction width generalizing n with
  | zero => rfl
  | succ width ih => simp [hex, ih]

lemma readUnicode_hex {n : Nat} (h : n < 65536) (hs : n < 0xD800 ∨ 0xE000 ≤ n)
    (hrest : rest ≠ []) (pos : Nat) :
    readUnicode (hex 4 n ++ rest) pos = .ok (Char.ofNat n, 4) := by
  have hpos : 0 < rest.length := length_pos_iff.mpr hrest
  have hlong : ¬ (hex 4 n ++ rest).length ≤ 4 := by
    rw [length_append, length_hex]
    omega
  rw [readUnicode, if_neg hlong, take_left' (length_hex 4 n), hex4?_hex h]
  simp only [Bool.and_eq_true, decide_eq_true_eq]
  rw [if_neg (by omega), if_neg (by omega)]

lemma readUnicode_pair {m : Nat} (h : m < 0x100000) (hrest : rest ≠ []) (pos : Nat) :
    readUnicode (hex 4 (0xD800 + m / 1024) ++ '\\' :: 'u' ::
      (hex 4 (0xDC00 + m % 1024) ++ rest)) pos = .ok (Char.ofNat (0x10000 + m), 10) := by
  have hpos : 0 < rest.length := length_pos_iff.mpr hrest
  have hlong : ∀ t : Chars, ¬ (hex 4 (0xD800 + m / 1024) ++ '\\' :: t).length ≤ 4 := by
    intro t
    rw [length_append, length_cons, length_hex]
    omega
  have hsum : 0x10000 + (0xD800 + m / 1024 - 0xD800) * 1024 + (0xDC00 + m % 1024 - 0xDC00) =
      0x10000 + m := by
    omega
  rw [readUnicode, if_neg (hlong _), take_left' (length_hex 4 _), hex4?_hex (by omega),
    drop_left' (length_hex 4 _)]
  simp only [take_left' (length_hex 4 _), hex4?_hex (show 0xDC00 + m % 1024 < 65536 by omega),
    length_append, length_hex, Bool.and_eq_true, decide_eq_true_eq]
  rw [if_pos (by omega), if_pos (by omega), hsum]

lemma toNat_lt_of_char (c : Char) : c.toNat < 0x110000 ∧ (c.toNat < 0xD800 ∨ 0xE000 ≤ c.toNat) := by
  have h : c.toNat.isValidChar := c.valid
  simp only [Nat.isValidChar] at h
  omega

lemma readText_skip (start : Nat) (acc skipped rest : Chars) (pos : Nat) :
    readText start skipped.length acc (skipped ++ rest) pos =
      readText start 0 acc rest (pos + skipped.length) := by
  induction skipped generalizing pos with
  | nil => rfl
  | cons c s ih =>
    rw [length_cons, cons_append, readText, ih]
    congr 1
    omega

lemma readText_escapeChar (start : Nat) (acc : Chars) (c : Char) (rest : Chars) (hrest : rest ≠ [])
    (pos : Nat) :
    ∃ pos', readText start 0 acc (escapeChar c ++ rest) pos =
      readText start 0 (c :: acc) rest pos' := by
  obtain ⟨hmax, hgap⟩ := toNat_lt_of_char c
  simp only [escapeChar, beq_iff_eq, Bool.and_eq_true, decide_eq_true_eq]
  split_ifs with h1 h2 h3 h4 h5 h6 h7 h8 h9
  · subst h1
    exact ⟨pos + 1 + 1, rfl⟩
  · subst h2
    exact ⟨pos + 1 + 1, rfl⟩
  · subst h3
    exact ⟨pos + 1 + 1, rfl⟩
  · subst h4
    exact ⟨pos + 1 + 1, rfl⟩
  · subst h5
    exact ⟨pos + 1 + 1, rfl⟩
  · obtain rfl : c = Char.ofNat 8 := by rw [← h6, Char.ofNat_toNat]
    exact ⟨pos + 1 + 1, rfl⟩
  · obtain rfl : c = Char.ofNat 12 := by rw [← h7, Char.ofNat_toNat]
    exact ⟨pos + 1 + 1, rfl⟩
  · have hlow : ¬ c.toNat < 32 := by omega
    exact ⟨pos + 1, by simp [readText, h1, h2, hlow]⟩
  · have hread := readUnicode_hex h9 hgap hrest (pos + 1)
    rw [Char.ofNat_toNat] at hread
    refine ⟨pos + 1 + ('u' :: hex 4 c.toNat).length, ?_⟩
    rw [← readText_skip]
    simp [readText, hread, length_hex]
  · have hread := readUnicode_pair (m := c.toNat - 65536) (by omega) hrest (pos + 1)
    rw [show 0x10000 + (c.toNat - 65536) = c.toNat by omega, Char.ofNat_toNat] at hread
    refine ⟨pos + 1 + ('u' :: (hex 4 (0xD800 + (c.toNat - 65536) / 1024)
      ++ '\\' :: 'u' :: hex 4 (0xDC00 + (c.toNat - 65536) % 1024))).length, ?_⟩
    rw [← readText_skip]
    simp [readText, hread, length_hex]

lemma readText_written (start : Nat) (acc cs rest : Chars) (pos : Nat) :
    ∃ pos', readText start 0 acc (cs.flatMap escapeChar ++ '"' :: rest) pos =
      .ok (.ofList (acc.reverse ++ cs), ⟨rest, pos'⟩) := by
  induction cs generalizing acc pos with
  | nil => exact ⟨pos + 1, by simp [readText]⟩
  | cons c cs ih =>
    obtain ⟨p, hp⟩ := readText_escapeChar start acc c
      (cs.flatMap escapeChar ++ '"' :: rest) (by simp) pos
    obtain ⟨q, hq⟩ := ih (c :: acc) p
    refine ⟨q, ?_⟩
    rw [flatMap_cons, append_assoc, hp, hq]
    simp

lemma toList_quote (s : String) :
    (quote s).toList = '"' :: (s.toList.flatMap escapeChar ++ ['"']) := by
  simp [quote]

/-! ### Numbers -/

/-- What may follow a value: nothing, white space, a comma or a closing sign. -/
def Ends (rest : Chars) : Prop :=
  ∀ c, rest.head? = some c → isSpace c = true ∨ c = ',' ∨ c = ']' ∨ c = '\x7d'

/-- The digits of a whole number: at least one, and a leading zero only alone. -/
structure Numeral (ds : Chars) : Prop where
  ne_nil : ds ≠ []
  digits : ∀ c ∈ ds, isAsciiDigit c = true
  zero : ds.head? = some '0' → ds = ['0']

instance (ds : Chars) : Decidable (Numeral ds) :=
  decidable_of_iff (ds ≠ [] ∧ ds.all isAsciiDigit = true ∧ (ds.head? = some '0' → ds = ['0']))
    ⟨fun h => ⟨h.1, all_eq_true.mp h.2.1, h.2.2⟩, fun h => ⟨h.1, all_eq_true.mpr h.2, h.3⟩⟩

lemma Ends.plain (h : Ends rest) (hc : rest.head? = some c) :
    isAsciiDigit c = false ∧ c ≠ '.' ∧ c ≠ 'e' ∧ c ≠ 'E' := by
  rcases h c hc with hs | rfl | rfl | rfl
  · simp only [isSpace, Bool.or_eq_true, beq_iff_eq] at hs
    rcases hs with ((rfl | rfl) | rfl) | rfl <;> decide
  all_goals decide

lemma wholePart_append (hds : Numeral ds) (rest : Chars)
    (hrest : ∀ c, rest.head? = some c → isAsciiDigit c = false) : wholePart (ds ++ rest) = ds := by
  obtain ⟨d, t, rfl⟩ := exists_cons_of_ne_nil hds.ne_nil
  by_cases hd : d = '0'
  · subst hd
    have ht := hds.zero rfl
    rw [ht]
    rfl
  · have htake := takeWhile_run hds.digits hrest
    rw [cons_append] at htake ⊢
    unfold wholePart
    split
    · next heq => exact absurd (cons.inj heq).1 hd
    · exact htake

lemma Ends.no_tail (h : Ends rest) : fractionPart rest = [] ∧ exponentPart rest = [] := by
  cases rest with
  | nil => exact ⟨rfl, rfl⟩
  | cons c t =>
    obtain ⟨-, hpoint, he, hE⟩ := h.plain rfl
    constructor
    · unfold fractionPart
      split
      · next heq => exact absurd (cons.inj heq).1 hpoint
      · rfl
    · simp [exponentPart, he, hE]

lemma Numeral.head_ne_minus (hds : Numeral ds) (rest : Chars) : (ds ++ rest).head? ≠ some '-' := by
  obtain ⟨d, t, rfl⟩ := exists_cons_of_ne_nil hds.ne_nil
  intro h
  have hd := hds.digits d (by simp)
  simp only [cons_append, head?_cons, Option.some.injEq] at h
  subst h
  exact absurd hd (by decide)

lemma readNumber_numeral (neg : Bool) (hds : Numeral ds) (hlen : ds.length ≤ digitLimit)
    (hrest : Ends rest) (pos : Nat) :
    ∃ pos', readNumber ⟨(if neg then '-' :: ds else ds) ++ rest, pos⟩ =
      .ok (.int (if neg then -(natOf ds : Int) else natOf ds), ⟨rest, pos'⟩) := by
  have hwhole := wholePart_append hds rest (fun c hc => (hrest.plain hc).1)
  obtain ⟨hfrac, hexp⟩ := hrest.no_tail
  have hlong : ¬ digitLimit < ds.length := by omega
  have hhead : ((ds ++ rest).head? == some '-') = false := by
    simpa using hds.head_ne_minus rest
  have hfull : ds.isEmpty = false := by simp [hds.ne_nil]
  cases neg with
  | false =>
    refine ⟨pos + ds.length, ?_⟩
    simp only [readNumber, Bool.false_eq_true, if_false, hhead, hwhole, hfull, drop_left, hfrac,
      length_nil, drop_zero, hexp, isEmpty_nil, Bool.and_self, if_true, if_neg hlong, Rest.advance]
    simp
  | true =>
    refine ⟨pos + (1 + ds.length), ?_⟩
    simp only [readNumber, if_true, cons_append, head?_cons, beq_self_eq_true, drop_succ_cons,
      drop_zero, hwhole, hfull, Bool.false_eq_true, if_false, drop_left, hfrac, length_nil, hexp,
      isEmpty_nil, Bool.and_self, if_neg hlong, Rest.advance]
    simp [Nat.add_comm 1]

lemma readAtom_digit {d : Char} (hd : isAsciiDigit d = true) (pos : Nat) :
    readAtom ⟨d :: s, pos⟩ = readNumber ⟨d :: s, pos⟩ := by
  have hne : ∀ c : Char, isAsciiDigit c = false → ¬ c = d := by
    rintro c hc rfl
    exact absurd hd (by simp [hc])
  simp [readAtom, wordValues, isFront, dropFront?, hne 'n' rfl, hne 't' rfl,
    hne 'f' rfl, hne 'N' rfl, hne 'I' rfl, hne '-' rfl]

lemma readAtom_minus {d : Char} (hd : isAsciiDigit d = true) (pos : Nat) :
    readAtom ⟨'-' :: d :: s, pos⟩ = readNumber ⟨'-' :: d :: s, pos⟩ := by
  have hne : ¬ 'I' = d := by
    rintro rfl
    exact absurd hd (by decide)
  simp [readAtom, wordValues, isFront, dropFront?, hne]

lemma digitChar_ne_zero : ∀ m < 10, 0 < m → m.digitChar ≠ '0' := by
  decide

lemma head_toDigits_ne_zero {m : Nat} (hm : 0 < m) : (Nat.toDigits 10 m).head? ≠ some '0' := by
  induction m using Nat.strongRecOn with
  | _ m ih =>
    by_cases hlt : m < 10
    · rw [toDigits_of_lt_base hlt, head?_cons, ne_eq, Option.some.injEq]
      exact digitChar_ne_zero m hlt hm
    · have hfront := ih (m / 10) (by omega) (by omega)
      obtain ⟨d, t, hd⟩ := exists_cons_of_ne_nil (toDigits_ne_nil (n := m / 10) (b := 10))
      rw [toDigits_of_base_le (by omega) (by omega), hd]
      rw [hd] at hfront
      exact hfront

lemma numeral_toDigits (n : Nat) : Numeral (Nat.toDigits 10 n) where
  ne_nil := toDigits_ne_nil
  digits c hc := by
    have h := isDigit_of_mem_toDigits (by omega) (by omega) hc
    simpa [isAsciiDigit, Char.isDigit, Char.le_def] using h
  zero h := by
    rcases Nat.eq_zero_or_pos n with rfl | hn
    · rfl
    · exact absurd h (head_toDigits_ne_zero hn)

lemma natOf_toDigits (n : Nat) : natOf (Nat.toDigits 10 n) = n := ofDigitChars_ten_toDigits

lemma toList_int (n : Int) : (toString n).toList =
      (if n < 0 then '-' :: Nat.toDigits 10 n.natAbs else Nat.toDigits 10 n.natAbs) := by
  rw [Int.toString_eq_repr, Int.repr_eq_if]
  by_cases hn : n < 0
  · rw [if_neg (by omega), if_pos hn, toList_append, toList_repr, show (-n).toNat =
      n.natAbs by omega]
    rfl
  · rw [if_pos (by omega), if_neg hn, toList_repr, show n.toNat = n.natAbs by omega]

lemma toString_int_injective {m n : Int} (h : toString m = toString n) : m = n := by
  have hlist := congrArg String.toList h
  rw [toList_int, toList_int] at hlist
  have hminus : ∀ {a b : Nat}, '-' :: Nat.toDigits 10 a ≠ Nat.toDigits 10 b := by
    intro a b heq
    exact absurd ((numeral_toDigits b).digits '-' (by simp [← heq])) (by decide)
  have hsame : ∀ {a b : Nat}, Nat.toDigits 10 a = Nat.toDigits 10 b → a = b := by
    intro a b heq
    rw [← natOf_toDigits a, heq, natOf_toDigits]
  split_ifs at hlist with hm hn hn
  · have := hsame (cons.inj hlist).2
    omega
  · exact absurd hlist hminus
  · exact absurd hlist.symm hminus
  · have := hsame hlist
    omega

/-! ### Values -/

/-- Layouts whose signs are a comma and a colon with blanks after them, and that keep whole numbers
short enough to be read. -/
structure Layout.Sane (l : Layout) : Prop where
  comma : ∃ bs, l.comma.toList = ',' :: bs ∧ ∀ b ∈ bs, b = ' '
  colon : ∃ bs, l.colon.toList = ':' :: bs ∧ ∀ b ∈ bs, b = ' '
  digits : ∃ k, l.digits = some k ∧ k ≤ digitLimit

/-- A text that is read as a value where `d` levels are left, whatever follows that may follow a
value. -/
structure ReadsAs (d : Nat) (text : Chars) (v : Value) : Prop where
  head : ∃ c s, text = c :: s ∧ isSpace c = false ∧ c ≠ ']' ∧ c ≠ Char.ofNat 0xFEFF
  read : ∀ fuel rest pos, 2 * text.length ≤ fuel → Ends rest →
    ∃ pos', readValue fuel d ⟨text ++ rest, pos⟩ = .ok (v, ⟨rest, pos'⟩)

/-- The values of JSON with at most so many lists and maps in one another, with distinct keys, and
with floats whose texts are read as `f` says. -/
inductive Readable (f : Float → Float) : Nat → Value → Prop where
  | null {d : Nat} : Readable f d .null
  | bool {d : Nat} (b : Bool) : Readable f d b
  | int {d : Nat} (n : Int) : Readable f d n
  | float {d : Nat} {x : Float} : ReadsAs d (floatText x).toList (.float (f x)) →
    Readable f d (.float x)
  | str {d : Nat} (s : String) : Readable f d s
  | list {d : Nat} {xs : List Value} : (∀ x ∈ xs, Readable f d x) → Readable f (d + 1) (.list xs)
  | object {d : Nat} {es : List (String × Value)} : (es.map Prod.fst).Nodup →
      (∀ e ∈ es, Readable f d e.2) → Readable f (d + 1) (.object es)

/-- A value without floats, up to a depth. -/
abbrev Plain : Nat → Value → Prop := Readable id

lemma readValue_atom (hq : c ≠ '"') (ho : c ≠ '\x7b') (hb : c ≠ '[') (fuel d pos : Nat) :
    readValue (fuel + 1) d ⟨c :: s, pos⟩ = readAtom ⟨c :: s, pos⟩ := by
  rw [readValue.eq_def]
  dsimp only
  split
  · next heq => exact absurd (cons.inj heq).1 hq
  · next heq => exact absurd (cons.inj heq).1 ho
  · next heq => exact absurd (cons.inj heq).1 hb
  · rfl

lemma digit_ne {d : Char} (hd : Text.isAsciiDigit d = true) :
    d ≠ '"' ∧ d ≠ '\x7b' ∧ d ≠ '[' ∧ isSpace d = false ∧ d ≠ ']' ∧ d ≠ Char.ofNat 0xFEFF := by
  refine ⟨?_, ?_, ?_, ?_, ?_, ?_⟩
  case refine_4 =>
    by_contra hs
    simp only [isSpace, Bool.not_eq_false, Bool.or_eq_true, beq_iff_eq] at hs
    rcases hs with ((rfl | rfl) | rfl) | rfl <;> exact absurd hd (by decide)
  all_goals
    rintro rfl
    exact absurd hd (by decide)

lemma readsAs_word {word : String} {v : Value} (h : (word, v) ∈ wordValues) (d : Nat) :
    ReadsAs d word.toList v := by
  simp only [wordValues, mem_cons, Prod.mk.injEq, not_mem_nil, or_false] at h
  rcases h with ⟨rfl, rfl⟩ | ⟨rfl, rfl⟩ | ⟨rfl, rfl⟩ | ⟨rfl, rfl⟩ | ⟨rfl, rfl⟩ | ⟨rfl, rfl⟩
  all_goals
    refine ⟨⟨_, _, rfl, by decide, by decide, by decide⟩, fun fuel rest pos hfuel _ => ?_⟩
    obtain ⟨fuel, rfl⟩ : ∃ k, fuel = k + 1 := ⟨fuel - 1, by simp at hfuel; omega⟩
    exact ⟨_, readValue_atom (by decide) (by decide) (by decide) fuel d pos⟩

lemma readsAs_int (hl : l.Sane) {n : Int} (h : l.whole n = .ok text) (d : Nat) :
    ReadsAs d text.toList n := by
  obtain ⟨k, hk, hlimit⟩ := hl.digits
  rw [Layout.whole, hk] at h
  dsimp only at h
  split_ifs at h with hlong
  obtain rfl := Except.ok.inj h
  have hds := numeral_toDigits n.natAbs
  have hdigits : (Nat.toDigits 10 n.natAbs).length ≤ digitLimit := by omega
  have hvalue : (if decide (n < 0) then -(natOf (Nat.toDigits 10 n.natAbs) : Int)
      else natOf (Nat.toDigits 10 n.natAbs)) = n := by
    rw [natOf_toDigits]
    by_cases hn : n < 0
    · simp only [hn, decide_true, if_true]
      omega
    · simp only [hn, decide_false, Bool.false_eq_true, if_false]
      omega
  obtain ⟨x, ds, hd⟩ := exists_cons_of_ne_nil hds.ne_nil
  have hdigit := hds.digits x (by simp [hd])
  obtain ⟨hq, ho, hb, hspace, hclose, hmark⟩ := digit_ne hdigit
  rw [toList_int]
  constructor
  · by_cases hn : n < 0
    · exact ⟨'-', _, if_pos hn, by decide, by decide, by decide⟩
    · exact ⟨x, ds, by rw [if_neg hn, hd], hspace, hclose, hmark⟩
  · intro fuel rest pos hfuel hrest
    obtain ⟨pos', hread⟩ := readNumber_numeral (decide (n < 0)) hds hdigits hrest pos
    rw [hvalue] at hread
    refine ⟨pos', ?_⟩
    by_cases hn : n < 0
    · simp only [hn, decide_true, if_true, hd, cons_append] at hread hfuel ⊢
      obtain ⟨fuel, rfl⟩ : ∃ k, fuel = k + 1 := ⟨fuel - 1, by simp at hfuel; omega⟩
      rw [readValue_atom (by decide) (by decide) (by decide), readAtom_minus hdigit, hread]
    · simp only [hn, decide_false, Bool.false_eq_true, if_false, hd, cons_append] at hread hfuel ⊢
      obtain ⟨fuel, rfl⟩ : ∃ k, fuel = k + 1 := ⟨fuel - 1, by simp at hfuel; omega⟩
      rw [readValue_atom hq ho hb, readAtom_digit hdigit, hread]

lemma readsAs_str (s : String) (d : Nat) : ReadsAs d (quote s).toList s := by
  rw [toList_quote]
  refine ⟨⟨'"', _, rfl, by decide, by decide, by decide⟩, fun fuel rest pos hfuel _ => ?_⟩
  obtain ⟨fuel, rfl⟩ : ∃ k, fuel = k + 1 := ⟨fuel - 1, by simp at hfuel; omega⟩
  obtain ⟨pos', hread⟩ := readText_written pos [] s.toList rest (pos + 1)
  refine ⟨pos', ?_⟩
  simp only [cons_append, append_assoc, nil_append, reverse_nil, ofList_toList] at hread ⊢
  simp [readValue, hread, Except.map]

/-! ### Lists and maps -/

lemma skip_blanks {bs t : Chars} (hbs : ∀ b ∈ bs, isSpace b = true)
    (ht : ∀ c, t.head? = some c → isSpace c = false) (pos : Nat) :
    ∃ pos', Rest.skip ⟨bs ++ t, pos⟩ = ⟨t, pos'⟩ := by
  have htake : (bs ++ t).takeWhile isSpace = bs := by
    rw [takeWhile_append_of_pos hbs]
    cases t with
    | nil => simp
    | cons c s => simp [ht c rfl]
  exact ⟨pos + bs.length, by simp [Rest.skip, htake]⟩

/-- White space is skipped up to a text that starts with another sign. -/
lemma skip_front {bs t : Chars} (hbs : ∀ b ∈ bs, isSpace b = true) (ht : t = c :: s)
    (hc : isSpace c = false) (u : Chars) (pos : Nat) :
    ∃ pos', Rest.skip ⟨bs ++ (t ++ u), pos⟩ = ⟨t ++ u, pos'⟩ := by
  refine skip_blanks hbs (fun d hd => ?_) pos
  rw [ht, cons_append, head?_cons, Option.some.injEq] at hd
  rwa [← hd]

lemma ends_close {bs t : Chars} (hbs : ∀ b ∈ bs, isSpace b = true)
    (hc : c = ',' ∨ c = ']' ∨ c = '\x7d') : Ends (bs ++ c :: t) := by
  intro d hd
  cases bs with
  | nil =>
    obtain rfl : c = d := by simpa using hd
    exact Or.inr hc
  | cons b bs =>
    obtain rfl : b = d := by simpa using hd
    exact Or.inl (hbs b (by simp))

lemma ends_comma (t : Chars) : Ends (',' :: t) := by
  intro d hd
  obtain rfl : ',' = d := by simpa using hd
  exact Or.inr (Or.inl rfl)

lemma skip_sign (hc : isSpace c = false) (t : Chars) (pos : Nat) :
    Rest.skip ⟨c :: t, pos⟩ = ⟨c :: t, pos⟩ := by
  simp [Rest.skip, hc]

/-- A comma with blanks behind it. -/
def IsComma (sep : String) : Prop := ∃ bs, sep.toList = ',' :: bs ∧ ∀ b ∈ bs, isSpace b = true

lemma head_join (sep t : String) (ts : List String) (ht : t.toList = c :: s) :
    ∃ s', (join sep (t :: ts)).toList = c :: s' := by
  cases ts with
  | nil => exact ⟨s, ht⟩
  | cons t' ts => exact ⟨s ++ (sep ++ Text.join sep (t' :: ts)).toList, by simp [Text.join, ht]⟩

lemma readItems_join {sep : String} (hsep : IsComma sep) {tail : Chars}
    (htail : ∀ b ∈ tail, isSpace b = true) {d : Nat} {vs : List Value}
    (h : Forall₂ (fun t v => ReadsAs d t.toList v) parts vs)
    (hne : parts ≠ []) (fuel : Nat) (acc : List Value) (rest : Chars) (pos : Nat)
    (hfuel : 2 * ((join sep parts).toList.length + tail.length + 1) ≤ fuel) :
    ∃ pos', readItems fuel d acc ⟨(join sep parts).toList ++ (tail ++ ']' :: rest), pos⟩ =
      .ok (.list (acc.reverse ++ vs), ⟨rest, pos'⟩) := by
  obtain ⟨bs, hbs, hblank⟩ := hsep
  induction h generalizing fuel acc pos with
  | nil => exact absurd rfl hne
  | @cons t v ts vs ht hts ih =>
    obtain ⟨fuel, rfl⟩ : ∃ k, fuel = k + 1 := ⟨fuel - 1, by omega⟩
    cases hts with
    | nil =>
      simp only [Text.join] at hfuel ⊢
      obtain ⟨p, hp⟩ :=
        ht.read fuel (tail ++ ']' :: rest) pos (by omega) (ends_close htail (by simp))
      obtain ⟨q, hq⟩ := skip_blanks (t := ']' :: rest) htail (by simp; decide) p
      refine ⟨q + 1, ?_⟩
      rw [readItems, hp]
      simp only [hq, Rest.advance, drop_succ_cons, drop_zero, reverse_cons]
    | @cons t' v' ts vs ht' hts =>
      simp only [Text.join, toList_append, hbs, length_append, length_cons] at hfuel
      simp only [Text.join, toList_append, hbs, append_assoc, cons_append]
      obtain ⟨c, s, hc, hspace, -, -⟩ := ht'.head
      obtain ⟨s', hs'⟩ := head_join sep t' ts hc
      obtain ⟨p, hp⟩ :=
        ht.read fuel (',' :: (bs ++ ((join sep (t' :: ts)).toList ++ (tail ++ ']' :: rest))))
        pos (by omega) (ends_comma _)
      obtain ⟨q, hq⟩ := skip_front hblank hs' hspace (tail ++ ']' :: rest) (p + 1)
      obtain ⟨z, hz⟩ := ih (by simp) fuel (v :: acc) q (by omega)
      refine ⟨z, ?_⟩
      rw [readItems, hp]
      simp only [skip_sign (show isSpace ',' = false by decide), Rest.advance,
        drop_succ_cons, drop_zero, hq, hz, reverse_cons, append_assoc, cons_append, nil_append]

/-- The text of an entry: its key, a colon with white space, and the text of its value. -/
def EntryReads (d : Nat) (text : String) (e : String × Value) : Prop :=
  ∃ bs t, text.toList = (quote e.1).toList ++ ':' :: (bs ++ t) ∧ (∀ b ∈ bs, isSpace b = true) ∧
    ReadsAs d t e.2

variable {d : Nat}

lemma EntryReads.head {e : String × Value} (h : EntryReads d text e) :
    ∃ s, text.toList = '"' :: s := by
  obtain ⟨bs, t, ht, -⟩ := h
  exact ⟨_, by rw [ht, toList_quote]; rfl⟩

lemma readMembers_entry {e : String × Value} (h : EntryReads d text e) (fuel : Nat)
    (acc : List (Value × Value)) (hrest : Ends rest) (pos : Nat)
    (hfuel : 2 * text.toList.length ≤ fuel) :
    ∃ pos', readMembers (fuel + 1) d acc ⟨text.toList ++ rest, pos⟩ =
      (let r := Rest.skip ⟨rest, pos'⟩
       let acc := Value.put e.1 e.2 acc
       match r.chars with
       | '\x7d' :: _ => .ok (.map acc, r.advance 1)
       | ',' :: _ => readMembers fuel d acc (r.advance 1).skip
       | _ => .error (.comma, r.pos)) := by
  obtain ⟨bs, t, ht, hblank, hv⟩ := h
  obtain ⟨c, s, hc, hspace, -, -⟩ := hv.head
  obtain ⟨p, hp⟩ := readText_written pos [] e.1.toList (':' :: (bs ++ (t ++ rest))) (pos + 1)
  obtain ⟨q, hq⟩ := skip_front hblank hc hspace rest (p + 1)
  have hlen : 2 * t.length ≤ fuel := by
    rw [ht] at hfuel
    simp only [length_append, length_cons] at hfuel
    omega
  obtain ⟨z, hz⟩ := hv.read fuel rest q hlen hrest
  refine ⟨z, ?_⟩
  simp only [reverse_nil, nil_append, ofList_toList] at hp
  simp only [ht, toList_quote, cons_append, append_assoc, nil_append]
  have hstep := readMembers.eq_def (fuel + 1) d acc
    ⟨'"' :: (e.1.toList.flatMap escapeChar ++ '"' :: ':' :: (bs ++ (t ++ rest))), pos⟩
  simp only [hp, skip_sign (show isSpace ':' = false by decide), Rest.advance,
    drop_succ_cons, drop_zero, hq, hz] at hstep
  exact hstep

/-- Entries that read back, with commas between them and a closing brace after them, are read as a
map, behind the entries read before them. -/
lemma readMembers_join {sep : String} (hsep : IsComma sep) {tail : Chars}
    (htail : ∀ b ∈ tail, isSpace b = true) (h : Forall₂ (EntryReads d) parts es) (hne : parts ≠ [])
    (fuel : Nat) (acc : List (String × Value))
    (hkeys : ((acc ++ es).map Prod.fst).Nodup) (rest : Chars) (pos : Nat)
    (hfuel : 2 * ((join sep parts).toList.length + tail.length + 1) ≤ fuel) :
    ∃ pos', readMembers fuel d (Value.keyed acc)
      ⟨(join sep parts).toList ++ (tail ++ '\x7d' :: rest), pos⟩ =
      .ok (.object (acc ++ es), ⟨rest, pos'⟩) := by
  obtain ⟨bs, hbs, hblank⟩ := hsep
  induction h generalizing fuel acc pos with
  | nil => exact absurd rfl hne
  | @cons t e ts es ht hts ih =>
    obtain ⟨fuel, rfl⟩ : ∃ k, fuel = k + 1 := ⟨fuel - 1, by omega⟩
    -- the new key is none of those read before
    have hfresh : e.1 ∉ acc.map Prod.fst := by
      rw [map_append, nodup_append] at hkeys
      intro hmem
      exact hkeys.2.2 _ hmem e.1 (by simp) rfl
    have hput : Value.put e.1 e.2 (Value.keyed acc) = Value.keyed (acc ++ [e]) := by
      rw [Value.put_keyed, Value.assign_of_notMem hfresh]
    cases hts with
    | nil =>
      simp only [join] at hfuel ⊢
      obtain ⟨p, hp⟩ := readMembers_entry ht fuel (Value.keyed acc)
        (ends_close (t := rest) htail (Or.inr (Or.inr rfl))) pos (by omega)
      obtain ⟨q, hq⟩ := skip_blanks (t := '\x7d' :: rest) htail (by simp; decide) p
      refine ⟨q + 1, ?_⟩
      rw [hp]
      simp only [hq, hput, Rest.advance, drop_succ_cons, drop_zero, Value.object_eq]
    | @cons t' e' ts es ht' hts =>
      simp only [join, toList_append, hbs, length_append, length_cons] at hfuel
      simp only [join, toList_append, hbs, append_assoc, cons_append]
      obtain ⟨s, hs⟩ := ht'.head
      obtain ⟨s', hs'⟩ := head_join sep t' ts hs
      obtain ⟨p, hp⟩ := readMembers_entry ht fuel (Value.keyed acc)
        (ends_comma (bs ++ ((join sep (t' :: ts)).toList ++ (tail ++ '\x7d' :: rest)))) pos
          (by omega)
      obtain ⟨q, hq⟩ := skip_front hblank hs' (by decide) (tail ++ '\x7d' :: rest) (p + 1)
      obtain ⟨z, hz⟩ := ih (by simp) fuel (acc ++ [e]) (by simpa using hkeys) q (by omega)
      refine ⟨z, ?_⟩
      rw [hp]
      simp only [skip_sign (show isSpace ',' = false by decide), hput, Rest.advance, drop_succ_cons,
        drop_zero, hq, hz, append_assoc, cons_append, nil_append]

/-! ### Documents -/

lemma isSpace_of_mem_times {n : Nat} {b : Char} (h : b ∈ (times " " n).toList) :
    isSpace b = true := by
  induction n with
  | zero => simp [times] at h
  | succ n ih =>
    rw [times, toList_append, mem_append] at h
    rcases h with h | h
    · obtain rfl : b = ' ' := by simpa using h
      decide
    · exact ih h

lemma toList_enclose (hl : l.Sane) (level : Nat) (opening closing : String) (hne : parts ≠ []) :
    ∃ sep front tail, IsComma sep ∧ (∀ b ∈ front, isSpace b = true) ∧
      (∀ b ∈ tail, isSpace b = true) ∧
      (l.enclose level opening closing parts).toList =
        opening.toList ++ (front ++ ((join sep parts).toList ++ (tail ++ closing.toList))) := by
  have hparts : parts.isEmpty = false := by simp [hne]
  cases hindent : l.indent with
  | none =>
    obtain ⟨bs, hbs, hblank⟩ := hl.comma
    refine ⟨l.comma, [], [], ⟨bs, hbs, fun b hb => ?_⟩, by simp, by simp, ?_⟩
    · rw [hblank b hb]
      decide
    · simp [Layout.enclose, hparts, hindent]
  | some n =>
    have hpad : ∀ k, ∀ b ∈ ("\n" ++ times " " k).toList, isSpace b = true := by
      intro k b hb
      rw [toList_append, mem_append] at hb
      rcases hb with hb | hb
      · obtain rfl : b = '\n' := by simpa using hb
        decide
      · exact isSpace_of_mem_times hb
    refine ⟨"," ++ ("\n" ++ times " " (n * (level + 1))),
      ("\n" ++ times " " (n * (level + 1))).toList, ("\n" ++ times " " (n * level)).toList,
      ⟨_, by rw [toList_append]; rfl, hpad _⟩, hpad _, hpad _, ?_⟩
    simp [Layout.enclose, hparts, hindent]

lemma writeItems_ok {level : Nat} {xs : List Value} (h : writeItems l level xs = .ok parts) :
    Forall₂ (fun t v => write l level v = .ok t) parts xs := by
  induction xs generalizing parts with
  | nil =>
    obtain rfl : parts = [] := by simpa [writeItems] using h
    exact .nil
  | cons x xs ih =>
    rw [writeItems] at h
    cases hx : write l level x with
    | error e => simp [hx, bind, Except.bind] at h
    | ok t =>
      cases hxs : writeItems l level xs with
      | error e => simp [hx, hxs, bind, Except.bind] at h
      | ok ts =>
        obtain rfl : t :: ts = parts := by
          simpa [hx, hxs, bind, Except.bind, pure, Except.pure] using h
        exact .cons hx (ih hxs)

lemma writeEntries_ok {level : Nat} (h : writeEntries l level (Value.keyed es) = .ok parts) :
    Forall₂ (fun t e => ∃ u, write l level e.2 = .ok u ∧ t = quote e.1 ++ l.colon ++ u)
      parts es := by
  induction es generalizing parts with
  | nil =>
    obtain rfl : parts = [] := by simpa [writeEntries] using h
    exact .nil
  | cons e es ih =>
    rw [Value.keyed_cons, writeEntries, writeEntry] at h
    simp only [Layout.key] at h
    cases hx : write l level e.2 with
    | error e => simp [hx, bind, Except.bind] at h
    | ok t =>
      cases hxs : writeEntries l level (Value.keyed es) with
      | error e => simp [hx, hxs, bind, Except.bind, pure, Except.pure] at h
      | ok ts =>
        obtain rfl : (quote e.1 ++ l.colon ++ t) :: ts = parts := by
          simpa [hx, hxs, bind, Except.bind, pure, Except.pure] using h
        exact .cons ⟨t, hx, rfl⟩ (ih hxs)

lemma forall₂_of_mem {α β : Type} {R S : α → β → Prop} {xs : List α} {ys : List β}
    (h : Forall₂ R xs ys) (himp : ∀ y ∈ ys, ∀ x, R x y → S x y) : Forall₂ S xs ys := by
  induction h with
  | nil => exact .nil
  | cons hxy _ ih => exact .cons (himp _ (by simp) _ hxy) (ih fun y hy => himp y (by simp [hy]))

lemma readsAs_list (hl : l.Sane) (level : Nat) {vs : List Value}
    (h : Forall₂ (fun t v => ReadsAs d t.toList v) parts vs) :
    ReadsAs (d + 1) (l.enclose level "[" "]" parts).toList (.list vs) := by
  cases h with
  | nil =>
    have htext : (l.enclose level "[" "]" []).toList = ['[', ']'] := by simp [Layout.enclose]
    rw [htext]
    refine ⟨⟨'[', [']'], rfl, by decide, by decide, by decide⟩, fun fuel rest pos hfuel _ => ?_⟩
    obtain ⟨fuel, rfl⟩ : ∃ k, fuel = k + 1 := ⟨fuel - 1, by simp at hfuel; omega⟩
    exact ⟨pos + 1 +
      1, by simp [readValue, Rest.advance, skip_sign (show isSpace ']' = false by decide)]⟩
  | @cons t v ts vs ht hts =>
    obtain ⟨sep, front, tail, hsep, hfront, htail, htext⟩ :=
      toList_enclose hl level "[" "]" (cons_ne_nil t ts)
    rw [htext]
    refine ⟨⟨'[', _, rfl, by decide, by decide, by decide⟩, fun fuel rest pos hfuel _ => ?_⟩
    simp only [reduceToList, length_append, length_cons, length_nil] at hfuel
    obtain ⟨fuel, rfl⟩ : ∃ k, fuel = k + 1 := ⟨fuel - 1, by omega⟩
    obtain ⟨c, s, hc, hspace, hclose, -⟩ := ht.head
    obtain ⟨s', hs'⟩ := head_join sep t ts hc
    obtain ⟨p, hp⟩ := skip_front hfront hs' hspace (tail ++ ']' :: rest) (pos + 1)
    obtain ⟨q, hq⟩ := readItems_join hsep htail (.cons ht hts) (by simp) fuel [] rest p (by omega)
    refine ⟨q, ?_⟩
    simp only [reduceToList, cons_append, nil_append, append_assoc, readValue, Rest.advance,
      drop_succ_cons, drop_zero, hp]
    rw [hs', cons_append] at hq ⊢
    split
    · next heq => exact absurd (cons.inj heq).1 hclose
    · exact hq

lemma readsAs_object (hl : l.Sane) (level : Nat)
    (h : Forall₂ (EntryReads d) parts es) (hkeys : (es.map Prod.fst).Nodup) :
    ReadsAs (d + 1) (l.enclose level "\x7b" "\x7d" parts).toList (.object es) := by
  cases h with
  | nil =>
    have htext : (l.enclose level "\x7b" "\x7d" []).toList = ['\x7b', '\x7d'] := by
      simp [Layout.enclose]
    rw [htext]
    refine ⟨⟨'\x7b', ['\x7d'], rfl, by decide, by decide, by decide⟩,
      fun fuel rest pos hfuel _ => ?_⟩
    obtain ⟨fuel, rfl⟩ : ∃ k, fuel = k + 1 := ⟨fuel - 1, by simp at hfuel; omega⟩
    have hsign : isSpace '\x7d' = false := by decide
    exact ⟨pos + 1 + 1, by simp [readValue, Rest.advance, skip_sign hsign, Value.object_eq]⟩
  | @cons t e ts es ht hts =>
    obtain ⟨sep, front, tail, hsep, hfront, htail, htext⟩ :=
      toList_enclose hl level "\x7b" "\x7d" (cons_ne_nil t ts)
    rw [htext]
    refine ⟨⟨'\x7b', _, rfl, by decide, by decide, by decide⟩, fun fuel rest pos hfuel _ => ?_⟩
    simp only [reduceToList, length_append, length_cons, length_nil] at hfuel
    obtain ⟨fuel, rfl⟩ : ∃ k, fuel = k + 1 := ⟨fuel - 1, by omega⟩
    obtain ⟨s, hs⟩ := ht.head
    obtain ⟨s', hs'⟩ := head_join sep t ts hs
    obtain ⟨p, hp⟩ := skip_front hfront hs' (by decide) (tail ++ '\x7d' :: rest) (pos + 1)
    obtain ⟨q, hq⟩ :=
      readMembers_join hsep htail (.cons ht hts) (by simp) fuel [] hkeys rest p (by omega)
    refine ⟨q, ?_⟩
    simp only [reduceToList, cons_append, nil_append, append_assoc, readValue, Rest.advance,
      drop_succ_cons, drop_zero, hp]
    rw [hs', cons_append] at hq ⊢
    exact hq

end Workbench.Json

namespace Workbench.Value

mutual

/-- A value with its floats changed. -/
def mapFloats (f : Float → Float) : Value → Value
  | .float x => .float (f x)
  | .list xs => .list (mapFloatsItems f xs)
  | .map es => .map (mapFloatsEntries f es)
  | v => v
termination_by structural v => v

def mapFloatsItems (f : Float → Float) : List Value → List Value
  | [] => []
  | x :: xs => mapFloats f x :: mapFloatsItems f xs
termination_by structural xs => xs

def mapFloatsEntries (f : Float → Float) : List (Value × Value) → List (Value × Value)
  | [] => []
  | e :: es => mapFloatsEntry f e :: mapFloatsEntries f es
termination_by structural es => es

def mapFloatsEntry (f : Float → Float) : Value × Value → Value × Value
  | (k, v) => (k, mapFloats f v)
termination_by structural e => e

end

variable (f : Float → Float)

lemma mapFloats_list (xs : List Value) : mapFloats f (.list xs) = .list (xs.map (mapFloats f)) := by
  have hitems : mapFloatsItems f xs = xs.map (mapFloats f) := by
    induction xs with
    | nil => rfl
    | cons x xs ih => rw [mapFloatsItems, ih, map_cons]
  rw [mapFloats, hitems]

lemma mapFloats_object (es : List (String × Value)) :
    mapFloats f (.object es) = .object (es.map fun e => (e.1, mapFloats f e.2)) := by
  have hentries : mapFloatsEntries f (keyed es) =
      keyed (es.map fun e => (e.1, mapFloats f e.2)) := by
    induction es with
    | nil => rfl
    | cons e es ih => rw [keyed_cons, mapFloatsEntries, ih, mapFloatsEntry, map_cons, keyed_cons]
  rw [object_eq, mapFloats, hentries, object_eq]

end Workbench.Value

namespace Workbench.Json

variable {d : Nat} {v : Value} {text : String}

lemma Plain.mapFloats_id (hv : Plain d v) : v.mapFloats id = v := by
  induction hv with
  | list _ ih => rw [Value.mapFloats_list, map_congr_left ih, map_id']
  | @object _ es _ _ ih =>
    have hsame : ∀ e ∈ es, (e.1, e.2.mapFloats id) = e := fun e he => Prod.ext rfl (ih e he)
    rw [Value.mapFloats_object, map_congr_left hsame, map_id']
  | _ => rfl

/-- What is written of a value is read as the value, up to the floats. -/
theorem readsAs_write {f : Float → Float} {l : Layout} (hl : l.Sane)
    (hv : Readable f d v) {level : Nat} (h : write l level v = .ok text) :
    ReadsAs d text.toList (v.mapFloats f) := by
  induction hv generalizing level text with
  | null =>
    obtain rfl : text = "null" := by simpa [write, writeAtom] using h.symm
    exact readsAs_word (v := .null) (by simp [wordValues]) _
  | bool b =>
    obtain rfl : text = if b then "true" else "false" := by simpa [write, writeAtom] using h.symm
    cases b <;> exact readsAs_word (v := .bool _) (by simp [wordValues]) _
  | int n => exact readsAs_int hl (by simpa [write, writeAtom] using h) _
  | float hx =>
    obtain rfl : text = floatText _ := by simpa [write, writeAtom] using h.symm
    exact hx
  | str s =>
    obtain rfl : text = quote s := by simpa [write, writeAtom] using h.symm
    exact readsAs_str s _
  | @list _ xs _ ih =>
    rw [write] at h
    cases hparts : writeItems l (level + 1) xs with
    | error e => simp [hparts, Except.map] at h
    | ok parts =>
      obtain rfl : l.enclose level "[" "]" parts = text := by simpa [hparts, Except.map] using h
      rw [Value.mapFloats_list]
      refine readsAs_list hl level (forall₂_map_right_iff.mpr ?_)
      exact forall₂_of_mem (writeItems_ok hparts) fun x hx t ht => ih x hx ht
  | @object _ es hkeys _ ih =>
    rw [Value.object_eq, write] at h
    cases hparts : writeEntries l (level + 1) (Value.keyed es) with
    | error e => simp [hparts, Except.map] at h
    | ok parts =>
      obtain rfl : l.enclose level "\x7b" "\x7d" parts = text := by
        simpa [hparts, Except.map] using h
      obtain ⟨bs, hbs, hblank⟩ := hl.colon
      rw [Value.mapFloats_object]
      refine readsAs_object hl level
        (forall₂_map_right_iff.mpr (forall₂_of_mem (writeEntries_ok hparts) ?_))
        (by simpa [Function.comp_def] using hkeys)
      rintro e he t ⟨u, hu, rfl⟩
      exact ⟨bs, u.toList, by simp [hbs], fun b hb => by rw [hblank b hb]; decide, ih e he hu⟩

/-- A text within the limit of nesting is parsed. -/
lemma ReadsAs.parse (h : ReadsAs nestingLimit text.toList v) : parse text = .ok v := by
  obtain ⟨c, s, hc, hspace, -, hmark⟩ := h.head
  obtain ⟨pos, hread⟩ := h.read (2 * text.toList.length + 2) [] 0 (by omega) (by simp [Ends])
  have hhead : (text.toList.head? == some (Char.ofNat 0xFEFF)) = false := by simpa [hc] using hmark
  have hskip : Rest.skip ⟨text.toList, 0⟩ = ⟨text.toList, 0⟩ := by
    rw [hc]
    exact skip_sign hspace s 0
  rw [append_nil] at hread
  simp only [Json.parse, hhead, hskip, hread, Bool.false_eq_true, if_false]
  rfl

/-- What is rendered of a value without floats is parsed as the value. -/
theorem parse_render {l : Layout} (hl : l.Sane) (hv : Plain nestingLimit v)
    (h : render l v = .ok text) : parse text = .ok v := by
  have hread := (readsAs_write hl hv h).parse
  rwa [hv.mapFloats_id] at hread

end Workbench.Json
