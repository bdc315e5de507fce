import Workbench.Proofs.Json.ReadBack

/-!
# Texts of numbers

A whole number is written as its decimal digits, with a sign before them if it is negative, and it
is read back.  A number with a fraction or an exponent is read as a float, up to its end.
-/

open List String

namespace Workbench

open Text Json Decimal

namespace Decimal

variable {ds : Chars}

lemma digitValue?_of_isAsciiDigit {c : Char} (h : isAsciiDigit c = true) :
    digitValue? c = some (c.toNat - 48) := by
  have hbounds := isAsciiDigit_iff.mp h
  have hsmall : c.toNat < 128 := by omega
  unfold isAsciiDigit at h
  rw [digitValue?]
  simp [hsmall, h]

lemma isDecimal_of_isAsciiDigit {c : Char} (h : isAsciiDigit c = true) : isDecimal c = true := by
  rw [isDecimal, digitValue?_of_isAsciiDigit h]
  rfl

lemma isDecimal_of_mem_toDigits (n : Nat) :
    ∀ c ∈ Nat.toDigits 10 n, isDecimal c = true := fun c hc =>
  isDecimal_of_isAsciiDigit ((numeral_toDigits n).digits c hc)

lemma digitGroup_of_decimals (hds : ∀ c ∈ ds, isDecimal c = true) (hne : ds ≠ []) :
    digitGroup ds = some (ds.filterMap digitValue?) := by
  fun_induction digitGroup ds with
  | case1 => exact absurd rfl hne
  | case2 c =>
    obtain ⟨n, hn⟩ := Option.isSome_iff_exists.mp (hds c mem_cons_self)
    simp [hn]
  | case3 c rest ih =>
    -- An underscore is no digit.
    exact absurd (hds '_' (by simp)) (by decide)
  | case4 c rest hrest hline ih =>
    obtain ⟨hc, hds⟩ := forall_mem_cons.mp hds
    obtain ⟨n, hn⟩ := Option.isSome_iff_exists.mp hc
    simp [hn, ih hds hrest]

lemma length_filterMap_digitValue? (hds : ∀ c ∈ ds, isDecimal c = true) :
    (ds.filterMap digitValue?).length = ds.length := by
  induction ds with
  | nil => rfl
  | cons c ds ih =>
    obtain ⟨hc, hds⟩ := forall_mem_cons.mp hds
    obtain ⟨n, hn⟩ := Option.isSome_iff_exists.mp hc
    rw [filterMap_cons_some hn, List.length_cons, ih hds, List.length_cons]

lemma digitGroup_of_digits (hds : ∀ c ∈ ds, isAsciiDigit c = true) (hne : ds ≠ []) :
    digitGroup ds = some (ds.map fun c => c.toNat - 48) := by
  have hvalues : ds.filterMap digitValue? = ds.map fun c => c.toNat - 48 := by
    rw [← filterMap_eq_map]
    exact filterMap_congr fun c hc => digitValue?_of_isAsciiDigit (hds c hc)
  rw [digitGroup_of_decimals (fun c hc => isDecimal_of_isAsciiDigit (hds c hc)) hne, hvalues]

lemma readNat_of_digits (hds : ∀ c ∈ ds, isAsciiDigit c = true) (hne : ds ≠ [])
    (hlen : ds.length ≤ digitLimit) :
    readNat ds = .ok (natOf ds) := by
  have hshort : ¬ digitLimit < (ds.map fun c => c.toNat - 48).length := by
    rw [List.length_map]
    omega
  have hvalue : ofDigits (ds.map fun c => c.toNat - 48) = natOf ds := by
    unfold ofDigits natOf
    rw [foldl_map]
  rw [readNat, digitGroup_of_digits hds hne]
  simp only [if_neg hshort, hvalue]

lemma not_blank_of_isDecimal {c : Char} (h : isDecimal c = true) :
    isBlank c = false ∧ c ≠ '-' ∧ c ≠ '+' := by
  have hcodes : ∀ n ∈ blankCodes, isDecimal (Char.ofNat n) = false := by decide
  refine ⟨?_, ?_, ?_⟩
  · rw [← Bool.not_eq_true]
    intro hblank
    have hcode := hcodes c.toNat (by simpa [isBlank] using hblank)
    rw [Char.ofNat_toNat, h] at hcode
    cases hcode
  · rintro rfl
    exact absurd h (by decide)
  · rintro rfl
    exact absurd h (by decide)

lemma trim_digits (hds : ∀ c ∈ ds, isDecimal c = true) (hne : ds ≠ []) :
    trimWhile isBlank ds = ds ∧ trimWhile isBlank ('-' :: ds) = '-' :: ds := by
  have hlast : ∀ c ∈ ds.getLast?, isBlank c = false := fun c hc =>
    (not_blank_of_isDecimal (hds c (mem_of_mem_getLast? hc))).1
  constructor
  · refine trimWhile_eq_self (fun c hc => ?_) hlast
    exact (not_blank_of_isDecimal (hds c (mem_of_mem_head? hc))).1
  · refine trimWhile_eq_self (fun c hc => ?_) fun c hc => ?_
    · obtain rfl : '-' = c := by simpa using hc
      decide
    · rw [getLast?_cons_of_ne_nil hne] at hc
      exact hlast c hc

lemma readInt_of_decimals (hds : ∀ c ∈ ds, isDecimal c = true) (hne : ds ≠ []) :
    readInt (.ofList ds) = (readNat ds).map fun n => (n : Int) := by
  have hplain := (trim_digits hds hne).1
  obtain ⟨d, rest, rfl⟩ := exists_cons_of_ne_nil hne
  obtain ⟨-, hminus, hplus⟩ := not_blank_of_isDecimal (hds d (by simp))
  unfold readInt
  rw [toList_ofList, hplain]
  split
  · rename_i heq
    exact absurd (List.cons.inj heq).1 hminus
  · rename_i heq
    exact absurd (List.cons.inj heq).1 hplus
  · rfl

lemma readInt_of_digits (hds : ∀ c ∈ ds, isAsciiDigit c = true) (hne : ds ≠ [])
    (hlen : ds.length ≤ digitLimit) :
    readInt (.ofList ds) = .ok (natOf ds : Int) := by
  rw [readInt_of_decimals (fun c hc => isDecimal_of_isAsciiDigit (hds c hc)) hne,
    readNat_of_digits hds hne hlen]
  rfl

lemma readInt_toString {n : Int} (hlen : (Nat.toDigits 10 n.natAbs).length ≤ digitLimit) :
    readInt (toString n) = .ok n := by
  have hnumeral := numeral_toDigits n.natAbs
  by_cases hneg : n < 0
  · have hread := readNat_of_digits hnumeral.digits hnumeral.ne_nil hlen
    have hsigned := (trim_digits (isDecimal_of_mem_toDigits n.natAbs) hnumeral.ne_nil).2
    have hvalue : -(n.natAbs : Int) = n := by omega
    rw [natOf_toDigits] at hread
    unfold readInt
    rw [toList_int, if_pos hneg, hsigned]
    simp only [hread]
    exact congrArg Except.ok hvalue
  · have hvalue : (n.natAbs : Int) = n := by omega
    have htext : toString n = .ofList (Nat.toDigits 10 n.natAbs) := by
      refine toList_injective ?_
      rw [toList_int, if_neg hneg, toList_ofList]
    rw [htext, readInt_of_digits hnumeral.digits hnumeral.ne_nil hlen, natOf_toDigits, hvalue]

end Decimal

/-- Digits are read as the number they stand for, up to the limit. -/
theorem wholeOf_digits {ds : Chars} (hds : ∀ c ∈ ds, isAsciiDigit c = true) (hne : ds ≠ [])
    (hlen : ds.length ≤ digitLimit) : wholeOf (.ofList ds) = .ok (natOf ds : Int) := by
  rw [wholeOf, readInt_of_digits hds hne hlen]

/-- A number that does not have too many digits is read, whatever script its digits are of. -/
theorem wholeOf_decimals {ds : Chars} (hds : ∀ c ∈ ds, isDecimal c = true) (hne : ds ≠ [])
    (hlen : ds.length ≤ digitLimit) :
    wholeOf (.ofList ds) = .ok (ofDigits (ds.filterMap digitValue?) : Int) := by
  have hread : readNat ds = .ok (ofDigits (ds.filterMap digitValue?)) := by
    rw [readNat, digitGroup_of_decimals hds hne]
    refine if_neg ?_
    rw [length_filterMap_digitValue? hds]
    omega
  rw [wholeOf, readInt_of_decimals hds hne, hread]
  rfl

/-- A whole number that does not have too many digits is read from what is written for it. -/
theorem wholeOf_toString {n : Int} (hlen : (Nat.toDigits 10 n.natAbs).length ≤ digitLimit) :
    wholeOf (toString n) = .ok n := by
  rw [wholeOf, readInt_toString hlen]

end Workbench

namespace Workbench.Json

open List String Nat Bool Decimal Text

/-! ### Numbers with a fraction or an exponent -/

/-- Digits behind a point, or nothing. -/
def IsFraction (frac : Chars) : Prop :=
  frac = [] ∨ ∃ ds, frac = '.' :: ds ∧ ds ≠ [] ∧ ∀ c ∈ ds, isAsciiDigit c = true

/-- An exponent with its sign, or nothing. -/
def IsExponent (exp : Chars) : Prop :=
  exp = [] ∨ ∃ sign ds, exp = 'e' :: sign :: ds ∧ (sign = '+' ∨ sign = '-') ∧ ds ≠ [] ∧ ∀ c ∈ ds,
    isAsciiDigit c = true

/-- The parts of a number with a fraction or an exponent. -/
structure Broken (whole frac exp : Chars) : Prop where
  numeral : Numeral whole
  fraction : IsFraction frac
  exponent : IsExponent exp
  broken : frac ≠ [] ∨ exp ≠ []

/-- The float that such a number stands for. -/
def brokenValue (neg : Bool) (whole frac exp : Chars) : Float :=
  let e : Int := natOf ((exp.drop 1).filter isAsciiDigit)
  ofScaled neg (natOf (whole ++ frac.drop 1))
    ((if exp.contains '-' then -e else e) - (frac.drop 1).length)

section Parts

variable {whole frac exp rest : Chars}

/-- The exponent is found behind the fraction. -/
lemma IsExponent.part (h : IsExponent exp) (hrest : Ends rest) :
    exponentPart (exp ++ rest) = exp := by
  rcases h with rfl | ⟨sign, ds, rfl, hsign, hne, hds⟩
  · exact hrest.no_tail.2
  · have htake := takeWhile_run hds fun c hc => (hrest.plain hc).1
    rcases hsign with rfl | rfl <;> simp [exponentPart, htake, hne]

lemma IsExponent.head (h : IsExponent exp) (hrest : Ends rest) {c : Char}
    (hc : (exp ++ rest).head? = some c) :
    isAsciiDigit c = false ∧ c ≠ '.' := by
  rcases h with rfl | ⟨sign, ds, rfl, -⟩
  · exact ⟨(hrest.plain hc).1, (hrest.plain hc).2.1⟩
  · obtain rfl : 'e' = c := by simpa using hc
    decide

/-- The fraction is found behind the digits. -/
lemma IsFraction.part (h : IsFraction frac) (hexp : IsExponent exp) (hrest : Ends rest) :
    fractionPart (frac ++ (exp ++ rest)) = frac := by
  have hhead := fun c hc => hexp.head hrest (c := c) hc
  rcases h with rfl | ⟨ds, rfl, hne, hds⟩
  · unfold fractionPart
    split
    · next heq => exact absurd rfl (hhead '.' (by rw [← nil_append (exp ++ rest), heq]; rfl)).2
    · rfl
  · have htake := takeWhile_run hds fun c hc => (hhead c hc).1
    simp only [cons_append, fractionPart, htake]
    simp [hne]

lemma Broken.readNumber (h : Broken whole frac exp) (neg : Bool) (hrest : Ends rest) (pos : Nat) :
    ∃ pos', readNumber
        ⟨(if neg then '-' :: (whole ++ (frac ++ exp)) else whole ++ (frac ++ exp)) ++ rest, pos⟩ =
      .ok (.float (brokenValue neg whole frac exp), ⟨rest, pos'⟩) := by
  have hhead : ∀ c, (frac ++ (exp ++ rest)).head? = some c → isAsciiDigit c = false := by
    intro c hc
    rcases h.fraction with rfl | ⟨ds, rfl, -⟩
    · exact (h.exponent.head hrest hc).1
    · obtain rfl : '.' = c := by simpa using hc
      decide
  have hwhole := wholePart_append h.numeral _ hhead
  have hfrac := h.fraction.part h.exponent hrest
  have hexp := h.exponent.part hrest
  have hbroken : (frac.isEmpty && exp.isEmpty) = false := by
    simpa [or_iff_not_imp_left] using h.broken
  have hminus : ((whole ++ (frac ++ (exp ++ rest))).head? == some '-') = false :=
    beq_eq_false_iff_ne.mpr (h.numeral.head_ne_minus _)
  have hfull : whole.isEmpty = false := by simp [h.numeral.ne_nil]
  cases neg with
  | false =>
    refine ⟨pos + (0 + whole.length + frac.length + exp.length), ?_⟩
    simp only [Json.readNumber, Bool.false_eq_true, if_false, List.append_assoc, hminus, hwhole,
      hfull, List.drop_left, hfrac, hexp, hbroken, Rest.advance, brokenValue]
    simp [← List.append_assoc]
  | true =>
    refine ⟨pos + (1 + whole.length + frac.length + exp.length), ?_⟩
    have hcount : 1 + whole.length + frac.length + exp.length =
        (whole ++ (frac ++ exp)).length + 1 := by
      simp only [List.length_append]
      omega
    simp only [Json.readNumber, if_true, List.cons_append, List.append_assoc, List.head?_cons,
      beq_self_eq_true, drop_succ_cons, drop_zero, hwhole, hfull, false_eq_true, if_false,
      drop_left, hfrac, hexp,
      hbroken, Rest.advance, brokenValue, hcount]
    simp [← List.append_assoc]

lemma Broken.readsAs (h : Broken whole frac exp) (neg : Bool) (depth : Nat) :
    ReadsAs depth (if neg then '-' :: (whole ++ (frac ++ exp)) else whole ++ (frac ++ exp))
      (.float (brokenValue neg whole frac exp)) := by
  obtain ⟨d, t, rfl⟩ := exists_cons_of_ne_nil h.numeral.ne_nil
  have hdigit := h.numeral.digits d (by simp)
  obtain ⟨hq, ho, hb, hspace, hclose, hmark⟩ := digit_ne hdigit
  constructor
  · cases neg with
    | false => exact ⟨d, _, rfl, hspace, hclose, hmark⟩
    | true => exact ⟨'-', _, rfl, by decide, by decide, by decide⟩
  · intro fuel rest pos hfuel hrest
    obtain ⟨pos', hread⟩ := h.readNumber neg hrest pos
    obtain ⟨fuel, rfl⟩ : ∃ j, fuel = j + 1 := ⟨fuel - 1, by cases neg <;> simp at hfuel <;> omega⟩
    refine ⟨pos', ?_⟩
    cases neg with
    | false =>
      simp only [false_eq_true, if_false, cons_append] at hread ⊢
      rw [readValue_atom hq ho hb, readAtom_digit hdigit, hread]
    | true =>
      simp only [if_true, cons_append] at hread ⊢
      rw [readValue_atom (by decide) (by decide) (by decide), readAtom_minus hdigit, hread]

end Parts

/-! ### The text of a float -/

lemma toList_times_zero (k : Nat) : (times "0" k).toList = List.replicate k '0' := by
  induction k with
  | zero => rfl
  | succ k ih => rw [times, toList_append, ih, replicate_succ]; rfl

lemma isAsciiDigit_of_mem_zeros {k : Nat} {c : Char} (h : c ∈ List.replicate k '0') :
    isAsciiDigit c = true := by
  rw [eq_of_mem_replicate h]
  decide

lemma isExponent_exponentText (e : Int) : IsExponent ('e' :: (exponentText e).toList) := by
  have hdigits := (numeral_toDigits e.natAbs).digits
  refine Or.inr ⟨if e < 0 then '-' else '+', if (toString e.natAbs).length < 2 then
    '0' :: Nat.toDigits 10 e.natAbs
    else Nat.toDigits 10 e.natAbs, ?_, by split_ifs <;> simp, ?_, ?_⟩
  · rw [exponentText]
    split_ifs <;> simp
  · split_ifs
    · simp
    · exact (numeral_toDigits _).ne_nil
  · split_ifs
    · exact forall_mem_cons.mpr ⟨by decide, hdigits⟩
    · exact hdigits

lemma broken_layout {ds : Chars} (hne : ds ≠ []) (hdigits : ∀ c ∈ ds, isAsciiDigit c = true)
    (hhead : ds.head? ≠ some '0') (e : Int) :
    ∃ whole frac exp, (layout ds e).toList = whole ++ (frac ++ exp) ∧ Broken whole frac exp := by
  have htake {k : Nat} (hk : 0 < k) {zs : Chars} (hzs : ∀ c ∈ zs, isAsciiDigit c = true) : Numeral
      (ds.take k ++ zs) := by
    obtain ⟨k, rfl⟩ := exists_eq_succ_of_ne_zero (ne_of_gt hk)
    obtain ⟨d, t, rfl⟩ := exists_cons_of_ne_nil hne
    refine ⟨by simp, fun c hc => ?_, fun h => absurd h hhead⟩
    exact (mem_append.mp hc).elim (fun hc => hdigits c (mem_of_mem_take hc)) (hzs c)
  have hdrop : ∀ k, ∀ c ∈ ds.drop k, isAsciiDigit c = true :=
    fun k c hc => hdigits c (mem_of_mem_drop hc)
  rw [layout]
  split_ifs
  · refine ⟨['0'], '.' :: (List.replicate (-e - 1).toNat '0' ++ ds), [],
      by simp [toList_times_zero], by decide, Or.inr ⟨_, rfl, by simp [hne], fun c hc => ?_⟩,
      Or.inl rfl, Or.inl (by simp)⟩
    exact (mem_append.mp hc).elim isAsciiDigit_of_mem_zeros (hdigits c)
  · refine ⟨ds.take (e.toNat + 1) ++ List.replicate (e.toNat + 1 - ds.length) '0',
      '.' :: (if (ds.drop (e.toNat + 1)).isEmpty then ['0'] else ds.drop (e.toNat + 1)), [], ?_,
      htake (succ_pos _) fun _ => isAsciiDigit_of_mem_zeros, Or.inr ⟨_, rfl, ?_, ?_⟩, Or.inl rfl,
      Or.inl (by simp)⟩
    · simp only [toList_append, toList_ofList, append_nil]
      split_ifs <;> simp
    · split_ifs with hempty
      · simp
      · simpa using hempty
    · split_ifs
      · exact fun _ => isAsciiDigit_of_mem_zeros (k := 1)
      · exact hdrop _
  · have hwhole : Numeral (ds.take 1 ++ []) := htake Nat.one_pos (by simp)
    rw [append_nil] at hwhole
    refine ⟨ds.take 1, if (ds.drop 1).isEmpty then [] else '.' :: ds.drop 1, _, ?_, hwhole, ?_,
      isExponent_exponentText e, Or.inr (by simp)⟩
    · simp only [toList_append, toList_ofList]
      split_ifs <;> simp
    · split_ifs with hempty
      · exact Or.inl rfl
      · exact Or.inr ⟨_, rfl, by simpa using hempty, hdrop 1⟩

lemma shortestLoop_pos {b : Binary} (hb : 0 < b.mant) (e : Int) (fuel n : Nat) :
    0 < (shortestLoop b e fuel n).1 ∨ shortestLoop b e fuel n = (0, 0) := by
  induction fuel generalizing n with
  | zero => exact Or.inr rfl
  | succ fuel ih =>
    have hlow :
        0 < (4 * b.mant - if b.low then 1 else 2) * (twoTo (b.exp - 2) * tenTo (-(e - n + 1))) := by
      refine Nat.mul_pos ?_ (Nat.mul_pos (Nat.pow_pos (by decide)) (Nat.pow_pos (by decide)))
      split_ifs <;> omega
    have hpos : ∀ {even lo hi d den}, 0 < lo → readsBack even lo hi (d * den) = true → 0 < d := by
      intro even lo hi d den hlo hback
      rcases Nat.eq_zero_or_pos d with rfl | hd
      · rw [Nat.zero_mul, readsBack] at hback
        split_ifs at hback <;> simp at hback
        omega
      · exact hd
    rw [shortestLoop]
    generalize (4 * b.mant - if b.low then 1 else 2) * (twoTo (b.exp - 2) * tenTo (-(e - n + 1))) =
      lo at hlow ⊢
    split_ifs with hboth _ hdown hup
    · exact Or.inl (hpos hlow (and_eq_true_iff.mp hboth).1)
    · exact Or.inl (succ_pos _)
    · exact Or.inl (hpos hlow hdown)
    · exact Or.inl (succ_pos _)
    · exact ih (n + 1)

lemma broken_shortest {b : Binary} (hb : 0 < b.mant) :
    ∃ whole frac exp, (layout (shortest b).1 (shortest b).2).toList = whole ++ (frac ++ exp) ∧
      Broken whole frac exp := by
  rw [shortest]
  generalize leadingExponent (b.mant * twoTo b.exp) (twoTo (-b.exp)) = e
  rcases shortestLoop_pos hb e 18 1 with hpos | hnone
  · obtain ⟨d, s, hds⟩ := exists_cons_of_ne_nil (numeral_toDigits (shortestLoop b e 18 1).1).ne_nil
    have hhead : d ≠ '0' := by simpa [hds] using head_toDigits_ne_zero hpos
    have hkeep : dropEndWhile (· == '0') (d :: s) = d :: dropEndWhile (· == '0') s :=
      dropEndWhile_append_cons (by simpa using hhead) [] s
    refine broken_layout ?_ (fun c hc =>
      (numeral_toDigits _).digits c (mem_of_mem_dropEndWhile hc)) ?_ _
    · rw [hds, hkeep]
      simp
    · rw [hds, hkeep]
      simpa using hhead
  · rw [hnone]
    exact ⟨['0'], ['.', '0'], [], by decide, by decide,
      Or.inr ⟨['0'], rfl, by decide, forall_mem_of_all (by decide)⟩, Or.inl rfl, by decide⟩

lemma exists_readsAs_floatText (x : Float) :
    ∃ y, ∀ d, ReadsAs d (floatText x).toList (.float y) := by
  rw [floatText]
  cases hx : shape x with
  | nan => exact ⟨0.0 / 0.0, readsAs_word (by simp [wordValues])⟩
  | infinite neg =>
    cases neg with
    | false => exact ⟨1.0 / 0.0, readsAs_word (by simp [wordValues])⟩
    | true => exact ⟨-1.0 / 0.0, readsAs_word (by simp [wordValues])⟩
  | finite b =>
    have hsign : ∀ text : String, ((if b.neg then "-" else "") ++ text).toList =
        if b.neg then '-' :: text.toList else text.toList := by
      intro text
      cases b.neg <;> simp
    simp only [Decimal.floatText, hx, hsign]
    obtain ⟨whole, frac, exp, htext, hbroken⟩ : ∃ whole frac exp,
        (if b.mant == 0 then "0.0" else layout (shortest b).1 (shortest b).2).toList =
          whole ++ (frac ++ exp) ∧ Broken whole frac exp := by
      split_ifs with hzero
      · exact ⟨['0'], ['.', '0'], [], rfl, by decide,
          Or.inr ⟨['0'], rfl, by decide, forall_mem_of_all (by decide)⟩, Or.inl rfl, by decide⟩
      · exact broken_shortest (Nat.pos_of_ne_zero (by simpa using hzero))
    exact ⟨_, htext ▸ hbroken.readsAs b.neg⟩

/-- The float that the text of a float is read as. -/
def reread (x : Float) : Float :=
  match parse (floatText x) with
  | .ok (.float y) => y
  | _ => x

/-- The text of a float is read as what it stands for. -/
theorem readsAs_reread (x : Float) (d : Nat) :
    ReadsAs d (floatText x).toList (.float (reread x)) := by
  obtain ⟨y, hy⟩ := exists_readsAs_floatText x
  have hreread : reread x = y := by rw [reread, (hy _).parse]
  rw [hreread]
  exact hy d

end Workbench.Json
