import Workbench.Proofs.Text.Trim
import Workbench.Proofs.World.Exec
import Workbench.Review.Transcript

/-!
# One more line in a transcript

Only a line that is no JSON is skipped by itself.  Any other line is looked into as an object, and a
fault there ends the reading of the whole transcript.
-/

open List

namespace Workbench.Review.Transcript

open Text Tool

variable {w w' : World} {file text text' line : String} {front back : List String}
    {ms : List Message} {v : Value}

/-- The lines of a text: what stands behind the last line end is a line unless it is empty. -/
def linesOf (text : String) : List String :=
  if (split text "\n").getLast? = some "" then (split text "\n").dropLast else split text "\n"

/-- The types that messages have. -/
def messageTypes : List String := ["user", "assistant", "tool_use", "tool_result"]

/-- The value is a message. -/
def IsMessage (v : Value) : Prop := ∃ type ∈ messageTypes, v.fieldOr "type" "" = .ok (.str type)

/-- A line that is passed over: if it is JSON at all, it is an object of some other type than those
of messages, and if it is not, this is neither for a whole number with too many digits nor for too
many lists and maps in one another. -/
structure Harmless (line : String) : Prop where
  other : ∀ v, Json.parse (trim line) = .ok v → (∃ es, v = .map es) ∧ ¬ IsMessage v
  limits : ∀ e, Json.parse (trim line) = .error e →
    (∀ n, e.cause ≠ .tooManyDigits n) ∧ ∀ what, e.cause ≠ .tooDeep what

/-! ### Single lines -/

lemma messageOf_of_not_map (h : ¬ ∃ es, v = .map es) : messageOf v = .error (v.lacks "get") := by
  cases v with
  | map es => exact absurd ⟨es, rfl⟩ h
  | _ => rfl

lemma bind_ne_none {α β : Type} {x : Result α} {f : α → Result (Option β)}
    (h : ∀ a, f a ≠ .ok none) :
    x >>= f ≠ .ok none := by
  intro hbind
  obtain ⟨a, -, ha⟩ := exists_of_bind_ok hbind
  exact h a ha

lemma messageOf_map_eq_none_iff {es : List (Value × Value)} :
    messageOf (.map es) = .ok none ↔ ¬ IsMessage (.map es) := by
  have hfield : ∀ k d, (Value.map es).fieldOr k d = .ok ((Value.lookup k es).getD d) :=
    fun k d => rfl
  have hsome : ∀ m : Message, (pure (some m) : Result (Option Message)) ≠ .ok none :=
    fun m h => by cases h
  simp only [IsMessage, messageTypes, mem_cons, not_mem_nil, or_false, exists_eq_or_imp,
    exists_eq_left, messageOf, hfield, Except.ok.injEq,
    show ∀ (a : Value) (f : Value → Result (Option Message)),
    Except.ok a >>= f = f a from fun _ _ => rfl]
  generalize (Value.lookup "type" es).getD "" = type
  split
  · exact iff_of_false (bind_ne_none fun a => bind_ne_none fun b => hsome _) (by simp)
  · exact iff_of_false (bind_ne_none fun a => bind_ne_none fun b => hsome _) (by simp)
  · exact iff_of_false (hsome _) (by simp)
  · exact iff_of_false (bind_ne_none fun a => hsome _) (by simp)
  · simp_all [pure, Except.pure]

lemma messageOf_eq_none_iff : messageOf v = .ok none ↔ (∃ es, v = .map es) ∧ ¬ IsMessage v := by
  by_cases hobject : ∃ es, v = .map es
  · obtain ⟨es, rfl⟩ := hobject
    rw [messageOf_map_eq_none_iff]
    simp
  · rw [messageOf_of_not_map hobject]
    simp [hobject]

lemma messageOfLine_eq_none_iff : messageOfLine line = .ok none ↔ Harmless line := by
  by_cases hempty : trim line = ""
  · have hparse : Json.parse (trim line) = .error (.at [] .value 0) := by rw [hempty]; rfl
    refine iff_of_true (by simp [messageOfLine, hempty]) ⟨fun v hv => ?_, fun e he => ?_⟩
    · cases hparse.symm.trans hv
    · rw [← Except.error.inj (hparse.symm.trans he)]
      exact ⟨fun _ => Json.Cause.noConfusion, fun _ => Json.Cause.noConfusion⟩
  have hne : (trim line == "") = false := by simpa using hempty
  simp only [messageOfLine, hne, Bool.false_eq_true, if_false, parseJson]
  cases hparse : Json.parse (trim line) with
  | ok v =>
    refine messageOf_eq_none_iff.trans
      ⟨fun h => ⟨fun v' hv' => ?_, fun e he => ?_⟩, fun h => h.other v hparse⟩
    · rwa [← Except.ok.inj (hparse.symm.trans hv')]
    · cases hparse.symm.trans he
  | error e =>
    have hjson : (Fault.json e).isJson = true ↔
        (∀ n, e.cause ≠ .tooManyDigits n) ∧ ∀ what, e.cause ≠ .tooDeep what := by
      obtain ⟨cause, pos, row, column⟩ := e
      cases cause <;> simp [Fault.isJson]
    constructor
    · intro h
      refine ⟨fun v hv => ?_, fun e' he' => ?_⟩
      · cases hparse.symm.trans hv
      · rw [← Except.error.inj (hparse.symm.trans he'), ← hjson]
        by_contra hcause
        cases (if_neg hcause).symm.trans h
    · intro h
      exact if_pos (hjson.mpr (h.limits e hparse))

lemma messageOfLine_of_not_map (hv : Json.parse (trim line) = .ok v) (h : ¬ ∃ es, v = .map es) :
    messageOfLine line = .error (v.lacks "get") := by
  have hne : (trim line == "") = false := by
    rw [beq_eq_false_iff_ne]
    intro hempty
    rw [hempty] at hv
    cases hv
  simp only [messageOfLine, hne, Bool.false_eq_true, if_false, parseJson, hv]
  exact messageOf_of_not_map h

/-! ### All lines -/

lemma messages_eq (text : String) :
    messages text = ((linesOf text).mapM messageOfLine).map fun found => found.filterMap id := by
  have hall : messages text = ((split text "\n").mapM messageOfLine).map fun found =>
      found.filterMap id := by
    rw [messages]
    cases (split text "\n").mapM messageOfLine <;> rfl
  rw [hall, linesOf]
  split_ifs with hlast
  · obtain ⟨ls, hls⟩ := getLast?_eq_some_iff.mp hlast
    have hempty : messageOfLine "" = .ok none := rfl
    rw [hls, dropLast_concat, mapM_append]
    cases ls.mapM messageOfLine with
    | error e => rfl
    | ok found => simp [hempty, bind, Except.bind, pure, Except.pure, Except.map]
  · rfl

/-- The lines before and behind the new one give what they gave without it. -/
lemma messages_insert (hlines : linesOf text = front ++ back)
    (hlines' : linesOf text' = front ++ line :: back) (hmessages : messages text = .ok ms) :
    ∃ before after, ms = before ++ after ∧
      messages text' = (messageOfLine line).map fun extra => before ++ extra.toList ++ after := by
  rw [messages_eq, hlines, mapM_append] at hmessages
  rw [messages_eq, hlines', mapM_append, mapM_cons]
  cases hfront : front.mapM messageOfLine with
  | error e => simp [hfront, bind, Except.bind, Except.map] at hmessages
  | ok found =>
    cases hback : back.mapM messageOfLine with
    | error e => simp [hfront, hback, bind, Except.bind, Except.map] at hmessages
    | ok found' =>
      refine ⟨found.filterMap id, found'.filterMap id, ?_, ?_⟩
      · simpa [hfront, hback, bind, Except.bind, pure, Except.pure, Except.map,
          eq_comm] using hmessages
      · rcases messageOfLine line with e | _ | m
        all_goals simp [bind, Except.bind, pure, Except.pure, Except.map]

/-! ### Files -/

lemma exec_read_ok (htext : (readText file).exec w = (.ok text, w)) (h : messages text = .ok ms) :
    ((read file).exec w).1 = .ok (.ok ms) := by
  have hbody :
      (do return .ok (← messages (← readText file)) : Tool (Except String (List Message))).exec w =
      (.ok (.ok ms), w) := by
    rw [exec_bind_ok htext, exec_bind_ok (exec_lift_ok h w), exec_pure]
  rw [read, exec_guarded_ok hbody]

lemma exec_read_error {e : Fault} (htext : (readText file).exec w = (.ok text, w))
    (h : messages text = .error e) :
    (e.isExit = true ∧ ((read file).exec w).1 = .error e) ∨
      (e.isExit = false ∧ ∃ reason, ((read file).exec w).1 = .ok (.error reason)) := by
  have hbody :
      (do return .ok (← messages (← readText file)) : Tool (Except String (List Message))).exec w =
      (.error e, w) := by
    rw [exec_bind_ok htext, exec_bind_error (exec_lift_error h w)]
  rw [read, exec_guarded, hbody]
  cases hexit : e.isExit with
  | true => exact .inl ⟨rfl, by simp [hexit]⟩
  | false => exact .inr ⟨rfl, _, by simp [hexit]; rfl⟩

lemma exec_read_eq_ok_iff (htext : (readText file).exec w = (.ok text, w)) :
    ((read file).exec w).1 = .ok (.ok ms) ↔ messages text = .ok ms := by
  cases hmessages : messages text with
  | ok ms' => simp [exec_read_ok htext hmessages]
  | error e =>
    rcases exec_read_error htext hmessages with ⟨-, hread⟩ | ⟨-, reason, hread⟩
    all_goals simp [hread]

/-- A line leaves what is read of a transcript as it is, wherever it is put in, if and only if it is
harmless; a line of JSON that is no object leaves nothing of the transcript. -/
theorem read_more_iff (htext : (readText file).exec w = (.ok text, w))
    (htext' : (readText file).exec w' = (.ok text', w')) (hlines : linesOf text = front ++ back)
    (hlines' : linesOf text' = front ++ line :: back)
    (hread : ((read file).exec w).1 = .ok (.ok ms)) :
    (((read file).exec w').1 = ((read file).exec w).1 ↔ Harmless line) ∧
      ∀ v, Json.parse (trim line) = .ok v → (¬ ∃ es, v = .map es) →
        ∃ reason, ((read file).exec w').1 = .ok (.error reason) := by
  obtain ⟨before, after, rfl, hinsert⟩ :=
    messages_insert hlines hlines' ((exec_read_eq_ok_iff htext).mp hread)
  constructor
  · rw [hread, exec_read_eq_ok_iff htext', hinsert, ← messageOfLine_eq_none_iff]
    rcases messageOfLine line with e | _ | m
    all_goals simp [Except.map]
  · intro v hv hobject
    rw [messageOfLine_of_not_map hv hobject] at hinsert
    rcases exec_read_error htext' hinsert with ⟨hexit, -⟩ | ⟨-, hlost⟩
    · cases hexit
    · exact hlost

/-- A world with a file. -/
def holding (text : String) : World :=
  { files := { entries := [(["t"], .file (.text text) false)] } }

lemma exec_readText_holding (text : String) (h : '\r' ∉ text.toList) :
    (readText "t").exec (holding text) = (.ok text, holding text) := by
  have hreaches : (holding text).Reaches "t" := ⟨by decide, rfl⟩
  have hdecoded : decodeText (.text text) = .ok text := by
    rw [decodeText, unixLineEnds_of_notMem h, String.ofList_toList]
  exact exec_readText_ok hreaches rfl hdecoded

def oneUse : String := "\x7b\"type\": \"tool_use\"\x7d"

/-- A line that holds a number spoils the transcript. -/
theorem number_spoils_transcript :
    (∃ ms, ((read "t").exec (holding oneUse)).1 = .ok (.ok ms) ∧ ms.length = 1) ∧
    Json.parse (trim "5") = .ok (.int 5) ∧
      ∃ reason, ((read "t").exec (holding ("5\n" ++ oneUse))).1 = .ok (.error reason) := by
  have hparse : Json.parse (trim "5") = .ok (.int 5) := by rfl
  obtain ⟨ms, hms, hlength⟩ : ∃ ms, messages oneUse = .ok ms ∧ ms.length = 1 := by
    have hcount : (messages oneUse).toOption.map List.length = some 1 := by decide +kernel
    cases hmessages : messages oneUse with
    | error e => simp [hmessages, Except.toOption] at hcount
    | ok ms => exact ⟨ms, rfl, by simpa [hmessages, Except.toOption] using hcount⟩
  have htext := exec_readText_holding oneUse (by decide)
  have htext' := exec_readText_holding ("5\n" ++ oneUse) (by decide)
  have hread := exec_read_ok htext hms
  have hlines : linesOf oneUse = [] ++ [oneUse] := by decide +kernel
  refine ⟨⟨ms, hread, hlength⟩, hparse, ?_⟩
  exact (read_more_iff htext htext' hlines (by decide +kernel) hread).2 _ hparse (by simp)

end Workbench.Review.Transcript
