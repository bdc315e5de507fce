import Mathlib.Algebra.BigOperators.Group.List.Basic
import Mathlib.Algebra.Ring.Nat
import Mathlib.Tactic.Ring
import Workbench.Review.Analysis
import Workbench.Review.Quality

/-!
# What stands below a function

Both reviews of a program look at each function by itself, and go through all that is below it,
level by level.  This meets the same nodes as going down branch by branch, so the decisions counted
on the way are those of a recursive count.  What stands in a function inside a function is met once
for each of the two, and so are the handlers without a type in it.
-/

open List

namespace Workbench.Source.Tree

variable {P : Tree → Prop}

lemma induct (h : ∀ r k l e cs, (∀ c ∈ cs, P c) → P (node r k l e cs)) (t : Tree) : P t := by
  refine @Tree.rec P (fun cs => ∀ c ∈ cs, P c) h (fun _ h => (not_mem_nil h).elim) ?_ t
  exact fun t ts ht hts => forall_mem_cons.mpr ⟨ht, hts⟩

mutual

/-- A tree and all below it, each before what is below it. -/
def preorder : Tree → List Tree
  | node r k l e cs => node r k l e cs :: preorders cs
termination_by structural t => t

def preorders : List Tree → List Tree
  | [] => []
  | t :: ts => preorder t ++ preorders ts
termination_by structural ts => ts

end

lemma preorders_eq (ts : List Tree) : preorders ts = ts.flatMap preorder := by
  induction ts with
  | nil => rfl
  | cons t ts ih => rw [preorders, ih, flatMap_cons]

lemma preorder_eq (t : Tree) : t.preorder = t :: t.children.flatMap preorder := by
  obtain ⟨r, k, l, e, cs⟩ := t
  rw [preorder, preorders_eq]
  rfl

lemma size_eq (t : Tree) : t.size = 1 + sizes t.children := by
  obtain ⟨r, k, l, e, cs⟩ := t
  rw [size]
  rfl

lemma sizes_append (ts us : List Tree) : sizes (ts ++ us) = sizes ts + sizes us := by
  induction ts with
  | nil => rw [nil_append, sizes, Nat.zero_add]
  | cons t ts ih => rw [cons_append, sizes, sizes, ih, Nat.add_assoc]

/-- Going through a tree level by level meets the same trees as going through it branch by
branch. -/
lemma visit_perm {fuel : Nat} {queue : List Tree} (h : sizes queue ≤ fuel) :
    (visit fuel queue).Perm (queue.flatMap preorder) := by
  induction fuel generalizing queue with
  | zero =>
    cases queue with
    | nil => rfl
    | cons t ts =>
      rw [sizes, size_eq] at h
      omega
  | succ fuel ih =>
    cases queue with
    | nil => rfl
    | cons t ts =>
      have hrest : sizes (ts ++ t.children) ≤ fuel := by
        rw [sizes, size_eq] at h
        rw [sizes_append]
        omega
      rw [visit, flatMap_cons, preorder_eq, cons_append]
      refine ((ih hrest).trans ?_).cons t
      rw [flatMap_append]
      exact perm_append_comm

/-- A walk meets each part of a tree once. -/
theorem walk_perm (t : Tree) : t.walk.Perm t.preorder := by
  have h : sizes [t] ≤ t.size := by rw [sizes, sizes, Nat.add_zero]
  simpa [walk] using visit_perm h

end Workbench.Source.Tree

namespace Workbench.Review

open Source

/-! ### Decisions -/

/-- What a node adds to the number of decisions: one for a condition, a loop, a handler or a choice
between two values, and for operands that are joined by `and` or `or` one less than there are.  An
asynchronous loop adds nothing. -/
def branching (k : Kind) (operands : Nat) : Int :=
  if k ∈ [.ifStmt, .forLoop false, .whileLoop, .handler, .ifExp] then 1
  else if k = .boolOp then operands - 1
  else 0

mutual

/-- The branching points in a tree. -/
def decisions : Tree → Int
  | .node _ k _ _ cs => branching k cs.length + decisionsAmong cs
termination_by structural t => t

def decisionsAmong : List Tree → Int
  | [] => 0
  | t :: ts => decisions t + decisionsAmong ts
termination_by structural ts => ts

end

lemma weight_eq (t : Tree) : weight t = branching t.kind t.children.length := by
  unfold weight branching
  split <;> simp_all

lemma sum_weight_preorders {ts : List Tree}
    (h : ∀ t ∈ ts, (t.preorder.map weight).sum = decisions t) :
    ((ts.flatMap Tree.preorder).map weight).sum = decisionsAmong ts := by
  induction ts with
  | nil => rfl
  | cons t ts ih =>
    obtain ⟨ht, hts⟩ := forall_mem_cons.mp h
    rw [flatMap_cons, map_append, sum_append, ht, ih hts, decisionsAmong]

lemma sum_weight_preorder (t : Tree) : (t.preorder.map weight).sum = decisions t := by
  induction t using Tree.induct with
  | h r k l e cs ih =>
    rw [Tree.preorder_eq, map_cons, sum_cons, weight_eq, decisions]
    exact congrArg _ (sum_weight_preorders ih)

/-- The number of decisions found level by level is one more than the number found branch by
branch. -/
theorem complexity_eq_one_add_decisions (t : Tree) : complexity t = 1 + decisions t := by
  have hwalk : (t.walk.map weight).sum = (t.preorder.map weight).sum :=
    (t.walk_perm.map weight).sum_eq
  rw [complexity, ← sum_eq_foldr, hwalk, sum_weight_preorder]

/-- A loop over three joined conditions, with a choice below one of them. -/
example :
    let leaf (k : Kind) (cs : List Tree) : Tree := .node "" k 1 1 cs
    let joined := leaf .boolOp [leaf (.name "a") [], leaf .ifExp [], leaf (.name "b") []]
    complexity (leaf (.function false "f") [leaf .whileLoop [joined]]) = 5 := by
  decide

/-! ### Handlers inside functions -/

/-- The tree is a function. -/
def isFunction (t : Tree) : Bool := (functionName? t).isSome

mutual

/-- For each handler without a type the number of functions around it. -/
def handlerDepths (depth : Nat) : Tree → List Nat
  | .node r k l e cs =>
    (if isBareHandler (.node r k l e cs) then [depth] else [])
      ++ handlerDepthsIn (if isFunction (.node r k l e cs) then depth + 1 else depth) cs
termination_by structural t => t

def handlerDepthsIn (depth : Nat) : List Tree → List Nat
  | [] => []
  | t :: ts => handlerDepths depth t ++ handlerDepthsIn depth ts
termination_by structural ts => ts

end

lemma handlerDepthsIn_eq (depth : Nat) (ts : List Tree) :
    handlerDepthsIn depth ts = ts.flatMap (handlerDepths depth) := by
  induction ts with
  | nil => rfl
  | cons t ts ih => rw [handlerDepthsIn, ih, flatMap_cons]

lemma handlerDepths_eq (depth : Nat) (t : Tree) : handlerDepths depth t =
    (if isBareHandler t then [depth] else [])
      ++ t.children.flatMap (handlerDepths (if isFunction t then depth + 1 else depth)) := by
  obtain ⟨r, k, l, e, cs⟩ := t
  rw [handlerDepths, handlerDepthsIn_eq]
  rfl

/-- What a function is charged with: all handlers without a type below it. -/
def charge (t : Tree) : Nat := if isFunction t then (bareHandlers t).length else 0

lemma length_bareHandlers (t : Tree) :
    (bareHandlers t).length = t.preorder.countP isBareHandler := by
  rw [bareHandlers, ← countP_eq_length_filter, t.walk_perm.countP_eq]

lemma isBareHandler_of_isFunction {t : Tree} (h : isFunction t = true) :
    isBareHandler t = false := by
  cases hk : t.kind <;> simp_all [isFunction, functionName?, isBareHandler]

/-- A handler is charged to each function around it: those further out, and those met on the way to
it. -/
lemma sum_handlerDepths (t : Tree) (depth : Nat) :
    (handlerDepths depth t).sum = depth * t.preorder.countP isBareHandler +
      (t.preorder.map charge).sum := by
  induction t using Tree.induct generalizing depth with
  | h r k l e cs ih =>
    have hbelow : ∀ depth, (cs.flatMap (handlerDepths depth)).sum =
        depth * (cs.flatMap Tree.preorder).countP isBareHandler +
          ((cs.flatMap Tree.preorder).map charge).sum := by
      intro depth
      induction cs with
      | nil => rfl
      | cons c cs ihcs =>
        obtain ⟨hc, hcs⟩ := forall_mem_cons.mp ih
        rw [flatMap_cons, flatMap_cons, sum_append, countP_append, map_append, sum_append,
          hc depth, ihcs hcs]
        ring
    generalize ht : Source.Tree.node r k l e cs = t
    obtain rfl : t.children = cs := by rw [← ht]; rfl
    have hcharge := length_bareHandlers t
    rw [handlerDepths_eq, sum_append, hbelow, Tree.preorder_eq, countP_cons, map_cons,
      sum_cons, charge]
    rw [Tree.preorder_eq, countP_cons] at hcharge
    cases hfunction : isFunction t with
    | true =>
      simp [isBareHandler_of_isFunction hfunction] at hcharge ⊢
      rw [hcharge]
      ring
    | false =>
      simp only [Bool.false_eq_true, if_false]
      split_ifs
      · rw [sum_singleton]
        ring
      · rw [sum_nil]
        ring

lemma sum_charge (ts : List Tree) :
    (ts.map charge).sum = ((ts.filterMap fun n => (functionName? n).map fun name => (name, n)).map
      fun p => (bareHandlers p.2).length).sum := by
  induction ts with
  | nil => rfl
  | cons t ts ih =>
    rw [map_cons, sum_cons, ih, filterMap_cons, charge, isFunction]
    cases functionName? t <;> simp

/-- All functions together are charged with each handler as often as there are functions around
it. -/
theorem sum_functions (t : Tree) :
    ((functions t).map fun p => (bareHandlers p.2).length).sum = (handlerDepths 0 t).sum := by
  rw [functions, ← sum_charge, sum_handlerDepths, (t.walk_perm.map charge).sum_eq,
    Nat.zero_mul, Nat.zero_add]

/-! ### Issues -/

/-- A remark on a handler without a type. -/
def isBareRemark (r : Remark) : Bool := r.issue?.any (·.type == "bare_except")

/-- A deduction for a handler without a type. -/
def isBareDeduction (d : Deduction) : Bool :=
  d.flaw.any fun f => Text.startsWith f.message "Bare except"

lemma countP_functionRemarks (name : String) (f : Tree) :
    (functionRemarks name f).countP isBareRemark = (bareHandlers f).length := by
  have hhandlers : ∀ message,
      ((bareHandlers f).map fun _ => note .important "bare_except" message).countP isBareRemark =
      (bareHandlers f).length := by
    intro message
    rw [countP_map]
    exact countP_eq_length.mpr fun _ _ => rfl
  have hnote : ∀ c severity type message, type ≠ "bare_except" →
      (noteIf c severity type message).countP isBareRemark = 0 := by
    intro c severity type message htype
    cases c <;> simp [noteIf, note, isBareRemark, Remark.issue?, htype]
  have htangle : ∀ b : Prop, [Decidable b] → ∀ message n,
      (if b then [note .important "high_complexity" message, .tangle n]
        else []).countP isBareRemark = 0 := by
    intro b _ message n
    split_ifs <;> rfl
  simp only [functionRemarks, countP_append, hhandlers, htangle]
  rw [hnote _ _ _ _ (by decide), hnote _ _ _ _ (by decide), hnote _ _ _ _ (by decide)]
  simp

lemma not_isBareRemark_of_mem_nodeRemarks {code : String} {t : Tree} {r : Remark}
    (h : r ∈ nodeRemarks code t) :
    isBareRemark r = false := by
  simp only [nodeRemarks, callRemarks, shown, note, mem_append, mem_ite_nil_right, mem_flatMap,
    mem_cons, not_mem_nil, or_false] at h
  rcases h with
    ⟨-, ((⟨-, rfl | rfl⟩ | ⟨-, rfl⟩) | ⟨-, _, -, rfl | rfl⟩) | ⟨-, rfl⟩⟩ | ⟨_, -, rfl | rfl⟩
  all_goals rfl

lemma not_isBareRemark_of_mem_moduleRemarks {t : Tree} {r : Remark} (h : r ∈ moduleRemarks t) :
    isBareRemark r = false := by
  simp only [moduleRemarks, noteIf, note, mem_append, mem_ite_nil_right, mem_map,
    mem_singleton] at h
  rcases h with ⟨_, -, rfl⟩ | ⟨-, rfl⟩
  all_goals rfl

lemma countP_functionDeductions (name : String) (f : Tree) :
    (functionDeductions name f).countP isBareDeduction = (bareHandlers f).length := by
  have hhandlers : ∀ quoted : String,
      ((bareHandlers f).map fun _ => reported 10 .important s!"Bare except in {quoted}").countP
      isBareDeduction = (bareHandlers f).length := by
    intro quoted
    rw [countP_map]
    refine countP_eq_length.mpr fun _ _ => ?_
    simp [isBareDeduction, reported, Text.startsWith, Text.isFront, Text.dropFront?, toString]
  rw [functionDeductions, countP_append, hhandlers]
  refine Nat.add_eq_right.mpr (countP_eq_zero.mpr fun d hd => ?_)
  simp only [mem_append, mem_ite_nil_right, mem_singleton] at hd
  rcases hd with (⟨-, rfl⟩ | ⟨-, rfl⟩) | ⟨-, rfl⟩
  all_goals simp [isBareDeduction, reported, Text.startsWith, Text.isFront,
    Text.dropFront?, toString]

/-! ### Programs -/

/-- The issues that say that a handler without a type is in a function. -/
def bareIssues (rs : List Remark) : List Issue :=
  (rs.filterMap Remark.issue?).filter (·.type == "bare_except")

/-- The flaws of handlers without a type. -/
def bareFlaws (fs : List Flaw) : List Flaw :=
  fs.filter fun f => Text.startsWith f.message "Bare except"

lemma length_bareIssues (rs : List Remark) : (bareIssues rs).length = rs.countP isBareRemark := by
  rw [bareIssues, ← countP_eq_length_filter, countP_filterMap]
  exact countP_congr fun r _ => by rw [isBareRemark]; cases r.issue? <;> rfl

lemma length_bareFlaws (ds : List Deduction) :
    (bareFlaws (ds.filterMap Deduction.flaw)).length = ds.countP isBareDeduction := by
  rw [bareFlaws, ← countP_eq_length_filter, countP_filterMap]
  exact countP_congr fun d _ => by rw [isBareDeduction]; cases d.flaw <;> rfl

lemma orderedFunctions_perm (t : Tree) : (orderedFunctions t).Perm (functions t) := by
  rw [orderedFunctions]
  refine perm_append_comm.trans ?_
  exact filter_append_perm (fun p => isAsync p.2) (functions t)

lemma countP_programRemarks (code : String) (t : Tree) :
    (programRemarks code t).countP isBareRemark = (handlerDepths 0 t).sum := by
  have hnodes : (t.walk.flatMap (nodeRemarks code)).countP isBareRemark = 0 := by
    refine countP_eq_zero.mpr fun r hr => ?_
    obtain ⟨n, -, hn⟩ := mem_flatMap.mp hr
    exact Bool.eq_false_iff.mp (not_isBareRemark_of_mem_nodeRemarks hn)
  have hmodule : (moduleRemarks t).countP isBareRemark = 0 :=
    countP_eq_zero.mpr fun r hr => Bool.eq_false_iff.mp (not_isBareRemark_of_mem_moduleRemarks hr)
  rw [programRemarks, countP_append, countP_append, hnodes, hmodule,
    countP_flatMap, ← sum_functions]
  exact ((orderedFunctions_perm t).map _).sum_eq.trans
    (congrArg sum (map_congr_left fun p _ => countP_functionRemarks p.1 p.2))

lemma countP_programDeductions (t : Tree) :
    (programDeductions t).countP isBareDeduction = (handlerDepths 0 t).sum := by
  have himports : ((wildcardImports t).map fun m =>
      reported 3 .minor s!"Wildcard import from {m}").countP isBareDeduction = 0 := by
    refine countP_eq_zero.mpr fun d hd => ?_
    obtain ⟨m, -, rfl⟩ := mem_map.mp hd
    simp [isBareDeduction, reported, Text.startsWith, Text.isFront, Text.dropFront?, toString]
  rw [programDeductions, countP_append, himports, countP_flatMap, ← sum_functions]
  exact congrArg sum (map_congr_left fun p _ => countP_functionDeductions p.1 p.2)

lemma sum_eq_countP_iff (ns : List Nat) : ns.sum = ns.countP (0 < ·) ↔ ∀ n ∈ ns, n ≤ 1 := by
  have hle : ∀ ns : List Nat, ns.countP (0 < ·) ≤ ns.sum := by
    intro ns
    induction ns with
    | nil => rfl
    | cons n ns ih =>
      rw [countP_cons, sum_cons]
      split_ifs with h
      · simp at h
        omega
      · omega
  induction ns with
  | nil => simp
  | cons n ns ih =>
    have hrest := hle ns
    refine Iff.trans ?_ ((and_congr_right fun _ => ih).trans forall_mem_cons.symm)
    rw [sum_cons, countP_cons]
    split_ifs with h
    all_goals
      simp at h
      omega

/-- For each handler without a type in a program that can be read, the number of functions around
it. -/
def depthsIn (code : String) : List Nat :=
  match Source.parse code with
  | .ok t => handlerDepths 0 t
  | .error _ => []

lemma length_bareIssues_analyzePython (code : String) :
    (bareIssues (analyzePython code).remarks).length = (depthsIn code).sum := by
  unfold analyzePython depthsIn
  cases Source.parse code with
  | error r => rfl
  | ok t => exact (length_bareIssues _).trans (countP_programRemarks code t)

lemma length_bareFlaws_pythonQuality (code : String) :
    (bareFlaws (pythonQuality code).flaws).length = (depthsIn code).sum := by
  unfold pythonQuality depthsIn
  cases Source.parse code with
  | error r => simp [bareFlaws, Text.startsWith, Text.isFront, Text.dropFront?, toString]
  | ok t => exact (length_bareFlaws _).trans (countP_programDeductions t)

/-- Each handler without a type makes as many issues as there are functions around it.  So those
inside a function are counted once just if none is in a function inside a function. -/
theorem bare_handlers_counted_once_iff (code : String) :
    (∀ t : Tree,
      (bareIssues (programRemarks code t)).length = (handlerDepths 0 t).sum ∧
      (bareFlaws ((programDeductions t).filterMap Deduction.flaw)).length =
        (handlerDepths 0 t).sum ∧
      ((handlerDepths 0 t).sum = (handlerDepths 0 t).countP (0 < ·) ↔
        ∀ n ∈ handlerDepths 0 t, n ≤ 1)) ∧
    ((bareIssues (analyzePython code).remarks).length = (depthsIn code).countP (0 < ·) ↔
      ∀ n ∈ depthsIn code, n ≤ 1) ∧
    ((bareFlaws (pythonQuality code).flaws).length = (depthsIn code).countP (0 < ·) ↔
      ∀ n ∈ depthsIn code, n ≤ 1) := by
  rw [length_bareIssues_analyzePython, length_bareFlaws_pythonQuality]
  refine ⟨fun t => ⟨?_, ?_, sum_eq_countP_iff _⟩, sum_eq_countP_iff _, sum_eq_countP_iff _⟩
  · exact (length_bareIssues _).trans (countP_programRemarks code t)
  · exact (length_bareFlaws _).trans (countP_programDeductions t)

/-- A handler in a function inside a function. -/
example :
    let leaf (k : Kind) (cs : List Tree) : Tree := .node "" k 1 1 cs
    let inner := leaf (.function false "g") [leaf .tryStmt [leaf .handler []]]
    handlerDepths 0 (leaf .module [leaf (.function false "f") [inner]]) = [2] := by
  decide

end Workbench.Review
