import Desktop2Stereo.Lib.Labelled
import Desktop2Stereo.Lib.Monitors
import Desktop2Stereo.Model.ChatToGemini

/-!
# The Gemini stream of a Chat stream

The deltas of a choice come from several calls, interleaved. What the state has of a choice is the calls put together
so far; when the choice ends they are put out, each once and whole.

* `Assembled`, `appendToolCallDelta_assembled`: what the state has of the calls of a choice;
* `ChoiceKept`, `convertChoice_kept`, `convertChunk_kept`: what has been put out of each choice;
* `Translated`, **`chat_stream_to_gemini_stream`**: what comes out of a stream and its finalization.
-/

namespace Desktop2Stereo.ChatToGemini

open GoText Emitters Monitors Accounting Labelled
open List hiding count

/-! ## Calls -/

def firstText (l : List String) : String := (l.find? (· ≠ "")).getD ""

theorem firstText_concat (l : List String) (x : String) :
    firstText (l ++ [x]) = if firstText l ≠ "" then firstText l else x := by
  unfold firstText
  rw [List.find?_append]
  cases h : l.find? (· ≠ "") with
  | none => by_cases hx : x = "" <;> simp [hx]
  | some =>
    have hy := List.find?_some h
    simp at hy
    simp [hy]

def toolIndex (toolCall : ToolCallResponse) : ℤ := toolCall.index.getD 0

/-- A call that has not been put out, put together from its deltas. -/
def toolOf (ds : List (ℕ × ToolCallResponse)) (k : ℕ) : ChatToGeminiStreamTool where
  id := firstText ((part ds k).map fun d => trimSpace d.id)
  name := firstText ((part ds k).map fun d => trimSpace d.name)
  arguments := String.join ((part ds k).map (·.arguments))

/-- It can be told that the delta is one of the call. Without an id it goes on with the call that its index was last
used for, or begins a call at an unused index. With the id of a call it is one of that call. With a new id it names the
call at its index, if that has none, or begins a call. -/
def Belongs (ds : List (ℕ × ToolCallResponse)) (e : ℕ × ToolCallResponse) : Prop :=
  let id := trimSpace e.2.id
  let current := lastAt toolIndex ds (toolIndex e.2)
  if id = "" then current = some e.1 ∨ current = none ∧ e.1 = count ds
  else
    (toolOf ds e.1).id = id ∨
      (∀ k < count ds, (toolOf ds k).id ≠ id) ∧
        (current = some e.1 ∧ (toolOf ds e.1).id = "" ∨
          e.1 = count ds ∧ ∀ k ∈ current, (toolOf ds k).id ≠ "")

instance (ds : List (ℕ × ToolCallResponse)) (e : ℕ × ToolCallResponse) : Decidable (Belongs ds e) := by
  unfold Belongs
  infer_instance

structure Assembled (ds : List (ℕ × ToolCallResponse)) (t : ChoiceTools) : Prop where
  tools : t.tools = (List.range (count ds)).map (toolOf ds)
  byIndex : ∀ i, t.toolByIndex i = lastAt toolIndex ds i
  byID : ∀ id ≠ "", ∀ k, t.toolByID id = some k ↔ (toolOf ds k).id = id

section Assembly

variable {ds : List (ℕ × ToolCallResponse)} {t t' : ChoiceTools} {d : ToolCallResponse} {k : ℕ}

theorem toolOf_eq_empty (h : count ds ≤ k) : toolOf ds k = {} := by
  unfold toolOf
  rw [part_eq_nil h]
  rfl

theorem toolOf_concat_of_ne {j : ℕ} (h : k ≠ j) : toolOf (ds ++ [(k, d)]) j = toolOf ds j := by
  unfold toolOf
  rw [part_concat, if_neg h]

theorem toolOf_concat :
    toolOf (ds ++ [(k, d)]) k =
      { id := if (toolOf ds k).id ≠ "" then (toolOf ds k).id else trimSpace d.id
        name := if (toolOf ds k).name ≠ "" then (toolOf ds k).name else trimSpace d.name
        arguments := (toolOf ds k).arguments ++ d.arguments } := by
  unfold toolOf
  rw [part_concat, if_pos rfl]
  simp [firstText_concat, String.join_append]

theorem assembled_nil : Assembled [] {} where
  tools := rfl
  byIndex _ := rfl
  byID id hid k := by
    constructor
    · intro h
      cases h
    · intro h
      exact absurd h.symm hid

theorem Assembled.getD (h : Assembled ds t) (k : ℕ) : t.tools.getD k {} = toolOf ds k := by
  rw [h.tools, getD_eq_getElem?_getD, List.getElem?_map]
  by_cases hk : k < count ds
  · rw [List.getElem?_range hk]
    rfl
  · rw [List.getElem?_eq_none (by rw [length_range]; omega), toolOf_eq_empty (by omega)]
    rfl

theorem lt_count_of_id (h : (toolOf ds k).id ≠ "") : k < count ds := by
  by_contra hk
  rw [toolOf_eq_empty (by omega)] at h
  exact h rfl

theorem Assembled.findTool (h : Assembled ds t) (hd : Belongs ds (k, d)) :
    t.findTool (toolIndex d) (trimSpace d.id) = (if k < count ds then some k else none) ∧ k ≤ count ds := by
  unfold ChoiceTools.findTool
  simp only [h.getD, h.byIndex]
  unfold Belongs at hd
  dsimp only at hd
  by_cases hid : trimSpace d.id = ""
  · rw [if_pos hid] at hd
    simp only [hid, ne_eq, not_true, if_false, Option.none_or]
    rcases hd with hd | ⟨hd, rfl⟩
    · have hk := lt_count_of_lastAt hd
      simp [hd, hk, hk.le]
    · simp [hd]
  · rw [if_neg hid] at hd
    rcases hd with hd | ⟨hnew, hd⟩
    · have hk : k < count ds := lt_count_of_id (by rw [hd]; exact hid)
      rw [if_pos hid, (h.byID _ hid k).mpr hd]
      simp [hd, hk, hk.le]
    · have hnone : t.toolByID (trimSpace d.id) = none := by
        refine Option.eq_none_iff_forall_ne_some.mpr fun j hj => ?_
        have hj' := (h.byID _ hid j).mp hj
        exact hnew j (lt_count_of_id (by rw [hj']; exact hid)) hj'
      rw [if_pos hid, hnone]
      rcases hd with ⟨hlast, hempty⟩ | ⟨rfl, hother⟩
      · have hk := lt_count_of_lastAt hlast
        simp [hlast, hempty, hk, hk.le]
      · cases hlast : lastAt toolIndex ds (toolIndex d) with
        | none => simp 
        | some j =>
          have hj := hnew j (lt_count_of_lastAt hlast)
          simp [hid, hj, hother j hlast]

theorem set_map_range {β : Type} {f g : ℕ → β} (n : ℕ) (hfg : ∀ j, k ≠ j → g j = f j) :
    ((List.range n).map f).set k (g k) = (List.range n).map g := by
  refine ext_getElem (by simp) fun j h1 h2 => ?_
  rw [getElem_set]
  split_ifs with hj
  · subst hj
    simp
  · simp [hfg j hj]

theorem Assembled.grow (h : Assembled ds t) (hk : k ≤ count ds) :
    (if k < count ds then t.tools else t.tools ++ [({} : ChatToGeminiStreamTool)]) =
      (List.range (count (ds ++ [(k, d)]))).map (toolOf ds) := by
  rw [count_concat, h.tools]
  split_ifs with hlt
  · rw [max_eq_left hlt]
  · obtain rfl : k = count ds := by omega
    rw [max_eq_right (by omega), range_succ, map_append, map_singleton, toolOf_eq_empty le_rfl]

theorem extend_toolOf
    (hid : ¬ (trimSpace d.id ≠ "" ∧ (toolOf ds k).id ≠ "" ∧ (toolOf ds k).id ≠ trimSpace d.id))
    (hname : ¬ (trimSpace d.name ≠ "" ∧ (toolOf ds k).name ≠ "" ∧ (toolOf ds k).name ≠ trimSpace d.name)) :
    (toolOf ds k).extend d = toolOf (ds ++ [(k, d)]) k := by
  -- an id and a name that are sent again are the same
  have hfirst : ∀ old new : String, ¬ (new ≠ "" ∧ old ≠ "" ∧ old ≠ new) →
      (if new ≠ "" then new else old) = if old ≠ "" then old else new := by
    intro old new h
    by_cases hn : new = "" <;> by_cases ho : old = "" <;> simp_all
  rw [toolOf_concat]
  unfold ChatToGeminiStreamTool.extend
  rw [hfirst _ _ hid, hfirst _ _ hname]
  rfl

theorem Assembled.byID_concat (h : Assembled ds t) (hd : Belongs ds (k, d))
    (hid : ¬ (trimSpace d.id ≠ "" ∧ (toolOf ds k).id ≠ "" ∧ (toolOf ds k).id ≠ trimSpace d.id)) (id : String)
    (hne : id ≠ "") (j : ℕ) :
    (t.bind (toolIndex d) (trimSpace d.id) k).toolByID id = some j ↔ (toolOf (ds ++ [(k, d)]) j).id = id := by
  have hsame : (toolOf (ds ++ [(k, d)]) k).id = if trimSpace d.id ≠ "" then trimSpace d.id else (toolOf ds k).id := by
    rw [toolOf_concat]
    by_cases hn : trimSpace d.id = "" <;> by_cases ho : (toolOf ds k).id = "" <;> simp_all
  unfold ChoiceTools.bind
  dsimp only
  by_cases hempty : trimSpace d.id = ""
  · rw [if_neg (not_not.mpr hempty), h.byID id hne]
    rw [if_neg (not_not.mpr hempty)] at hsame
    by_cases hj : k = j
    · rw [← hj, hsame]
    · rw [toolOf_concat_of_ne hj]
  rw [if_pos hempty]
  rw [if_pos hempty] at hsame
  by_cases heq : id = trimSpace d.id
  · rw [heq, Function.update_self, Option.some_inj]
    refine ⟨fun hj => by rw [← hj, hsame], fun hj => by_contra fun hkj => ?_⟩
    -- another call would have the id already
    rw [toolOf_concat_of_ne hkj] at hj
    unfold Belongs at hd
    dsimp only at hd
    rw [if_neg hempty] at hd
    rcases hd with hd | ⟨hnew, -⟩
    · rw [← h.byID _ hempty] at hj hd
      exact hkj (Option.some_inj.mp (hd.symm.trans hj))
    · exact hnew j (lt_count_of_id (by rw [hj]; exact hempty)) hj
  · rw [Function.update_of_ne heq, h.byID id hne]
    by_cases hj : k = j
    · subst hj
      rw [hsame]
      refine ⟨fun hold => ?_, fun hold => absurd hold.symm heq⟩
      exact absurd ⟨hempty, by rw [hold]; exact hne, by rw [hold]; exact heq⟩ hid
    · rw [toolOf_concat_of_ne hj]

theorem appendToolCallDelta_assembled {c : ℤ} (h : Assembled ds t) (hd : Belongs ds (k, d))
    (hok : t.appendToolCallDelta c d = .ok t') : Assembled (ds ++ [(k, d)]) t' := by
  obtain ⟨hfind, hk⟩ := h.findTool hd
  have hposition : (if k < count ds then some k else none).getD t.tools.length = k := by
    rw [h.tools, length_map, length_range]
    split_ifs with hlt
    · rfl
    · exact le_antisymm (not_lt.mp hlt) hk
  have htools : (if (if k < count ds then some k else none).isSome then t.tools
      else t.tools ++ [({} : ChatToGeminiStreamTool)]) = (List.range (count (ds ++ [(k, d)]))).map (toolOf ds) := by
    rw [← h.grow hk]
    split_ifs <;> simp_all
  have hget : ((List.range (count (ds ++ [(k, d)]))).map (toolOf ds)).getD k {} = toolOf ds k := by
    rw [getD_eq_getElem?_getD, List.getElem?_map, List.getElem?_range (by rw [count_concat]; omega)]
    rfl
  unfold ChoiceTools.appendToolCallDelta at hok
  dsimp only at hok
  rw [show d.index.getD 0 = toolIndex d from rfl, hfind, hposition, htools, hget] at hok
  split_ifs at hok with hneg hemitted hid hname
  rw [extend_toolOf hid hname, set_map_range _ fun j hj => toolOf_concat_of_ne hj] at hok
  cases hok
  refine ⟨rfl, fun i => ?_, h.byID_concat hd hid⟩
  rw [lastAt_concat, ← h.byIndex i]
  show Function.update t.toolByIndex (toolIndex d) (some k) i = _
  by_cases hi : toolIndex d = i
  · rw [if_pos hi, ← hi, Function.update_self]
  · rw [if_neg hi, Function.update_of_ne (Ne.symm hi)]

theorem appendToolCallDeltas_assembled {c : ℤ} {call : ℕ → ℕ} {l toolCalls : List ToolCallResponse}
    (h : Assembled (number call l) t) (hcalls : Vetted Belongs (number call (l ++ toolCalls)))
    (hok : t.appendToolCallDeltas c toolCalls = .ok t') : Assembled (number call (l ++ toolCalls)) t' := by
  induction toolCalls generalizing l t with
  | nil =>
    cases hok
    rwa [append_nil]
  | cons d toolCalls ih =>
    unfold ChoiceTools.appendToolCallDeltas at hok
    split at hok
    · cases hok
    next t1 h1 =>
      rw [append_cons] at hcalls ⊢
      have hd : Vetted Belongs (number call (l ++ [d])) := by
        rw [number_append] at hcalls
        exact hcalls.left
      rw [number_concat, vetted_concat] at hd
      refine ih ?_ hcalls hok
      rw [number_concat]
      exact appendToolCallDelta_assembled h hd.2 h1

end Assembly

/-! ## Choices -/

variable {α : Type}

def GeminiChatCandidate.texts (candidate : GeminiChatCandidate α) : List String :=
  candidate.parts.filterMap fun
    | .text s => some s
    | .functionCall _ => none

def GeminiChatCandidate.calls (candidate : GeminiChatCandidate α) : List (FunctionCall α) :=
  candidate.parts.filterMap fun
    | .text _ => none
    | .functionCall call => some call

def toolDeltas (entries : List IndexedChoice) : List ToolCallResponse :=
  entries.flatMap fun e => indexedToolCalls e.delta.toolCalls

def content (entries : List IndexedChoice) : String := String.join (entries.map fun e => e.delta.getContentString)

/-- A candidate before the end of its choice. -/
def Interim (candidate : GeminiChatCandidate α) : Prop := candidate.finishReason = none ∧ candidate.calls = []

/-- The calls as they are put out. -/
def functionCalls (unmarshal : String → Option α) (ds : List (ℕ × ToolCallResponse)) : List (FunctionCall α) :=
  (List.range (count ds)).map fun k => {
    id := (toolOf ds k).id
    functionName := (toolOf ds k).name
    arguments := ChoiceTools.geminiFunctionArguments unmarshal (toolOf ds k).arguments }

/-- What has been put out of a choice, from its entries. -/
structure ChoiceKept (unmarshal : String → Option α) (call : ℕ → ℕ) (entries : List IndexedChoice)
    (candidates : List (GeminiChatCandidate α)) (t : ChoiceTools) (seen finished : Prop) : Prop where
  seen_iff : seen ↔ entries ≠ []
  seen_of_finished : finished → seen
  silent : entries = [] → candidates = []
  text : String.join (candidates.flatMap (·.texts)) = content entries
  unfinished : ¬ finished → (∀ x ∈ candidates, Interim x) ∧ Assembled (number call (toolDeltas entries)) t
  ended : finished → t.pending = [] ∧ ∃ before last, candidates = before ++ [last] ∧ (∀ x ∈ before, Interim x) ∧
    last.finishReason.isSome ∧ last.calls = functionCalls unmarshal (number call (toolDeltas entries))

section Choices

variable {unmarshal : String → Option α} {call : ℕ → ℕ} {entries : List IndexedChoice}
  {candidates : List (GeminiChatCandidate α)} {t t' : ChoiceTools} {c : ℤ} {ds : List (ℕ × ToolCallResponse)}
  {seen finished : Prop}

theorem choiceKept_nil : ChoiceKept unmarshal call [] [] {} False False where
  seen_iff := by simp
  seen_of_finished := id
  silent _ := rfl
  text := rfl
  unfinished _ := ⟨by simp, assembled_nil⟩
  ended h := h.elim

theorem Assembled.pending (h : Assembled ds t) : t.pending = (List.range (count ds)).map (toolOf ds) := by
  unfold ChoiceTools.pending
  rw [h.tools, filter_eq_self]
  intro tool htool
  obtain ⟨k, -, rfl⟩ := mem_map.mp htool
  rfl

theorem finishChoice_of_assembled (h : Assembled ds t) {r : List (GeminiPart α) × ChoiceTools}
    (hok : t.finishChoice unmarshal c = .ok r) :
    r.1 = (functionCalls unmarshal ds).map .functionCall ∧ r.2.pending = [] := by
  unfold ChoiceTools.finishChoice at hok
  split_ifs at hok with hname
  cases hok
  constructor
  · dsimp only
    rw [h.pending, map_map, functionCalls, map_map]
    rfl
  · unfold ChoiceTools.pending
    simp

theorem finishChoice_of_named (h : Assembled ds t) (hnamed : ∀ k < count ds, (toolOf ds k).name ≠ "") :
    ∃ r, t.finishChoice unmarshal c = .ok r := by
  unfold ChoiceTools.finishChoice
  rw [if_neg]
  · exact ⟨_, rfl⟩
  · rw [h.pending, any_map, any_eq_true]
    rintro ⟨k, hk, hname⟩
    exact hnamed k (mem_range.mp hk) (of_decide_eq_true hname)

theorem texts_candidate (body : String) (calls : List (FunctionCall α)) (reason : Option GeminiFinishReason) :
    String.join (GeminiChatCandidate.texts
      { index := c, parts := textParts body ++ calls.map .functionCall, finishReason := reason }) = body := by
  unfold GeminiChatCandidate.texts textParts
  dsimp only
  rw [filterMap_append, filterMap_map]
  split_ifs with h <;> simp_all [filterMap_none]

theorem calls_candidate (body : String) (calls : List (FunctionCall α)) (reason : Option GeminiFinishReason) :
    GeminiChatCandidate.calls
      { index := c, parts := textParts body ++ calls.map .functionCall, finishReason := reason } = calls := by
  unfold GeminiChatCandidate.calls textParts
  dsimp only
  rw [filterMap_append, filterMap_map]
  split_ifs with h <;> simp_all

theorem content_concat (e : IndexedChoice) : content (entries ++ [e]) = content entries ++ e.delta.getContentString := by
  simp [content, String.join_append, String.join_cons, String.join_nil]

theorem toolDeltas_concat (e : IndexedChoice) :
    toolDeltas (entries ++ [e]) = toolDeltas entries ++ indexedToolCalls e.delta.toolCalls := by
  simp [toolDeltas]

theorem ChoiceKept.again {e : IndexedChoice} (h : ChoiceKept unmarshal call entries candidates t seen finished)
    (hfinished : finished) (hcontent : e.delta.getContentString = "") (hcalls : e.delta.toolCalls = []) :
    ChoiceKept unmarshal call (entries ++ [e]) candidates t True finished where
  seen_iff := by simp
  seen_of_finished _ := trivial
  silent h := absurd h (by simp)
  text := by rw [h.text, content_concat, hcontent, String.append_empty]
  unfinished hn := absurd hfinished hn
  ended _ := by
    rw [toolDeltas_concat, hcalls, indexedToolCalls, mapIdx_nil, append_nil]
    exact h.ended hfinished

theorem ChoiceKept.goOn {e : IndexedChoice} (h : ChoiceKept unmarshal call entries candidates t seen finished)
    (hfinished : ¬ finished) (hcalls : Vetted Belongs (number call (toolDeltas (entries ++ [e]))))
    (happend : t.appendToolCallDeltas c (indexedToolCalls e.delta.toolCalls) = .ok t') :
    ChoiceKept unmarshal call (entries ++ [e])
      (candidates ++ if e.delta.getContentString ≠ "" then
        [{ index := c, parts := textParts e.delta.getContentString, finishReason := none }] else [])
      t' True finished where
  seen_iff := by simp
  seen_of_finished _ := trivial
  silent h := absurd h (by simp)
  text := by
    have htext := texts_candidate (c := c) e.delta.getContentString ([] : List (FunctionCall α)) none
    rw [map_nil, append_nil] at htext
    rw [flatMap_append, String.join_append, h.text, content_concat]
    split_ifs with hbody
    · rw [flatMap_singleton, htext]
    · rw [not_not.mp hbody]
      rfl
  unfinished _ := by
    obtain ⟨hinterim, hassembled⟩ := h.unfinished hfinished
    rw [toolDeltas_concat] at hcalls ⊢
    refine ⟨fun x hx => ?_, appendToolCallDeltas_assembled hassembled hcalls happend⟩
    rcases mem_append.mp hx with hx | hx
    · exact hinterim x hx
    · split_ifs at hx with hbody
      · rw [mem_singleton.mp hx]
        have hnone := calls_candidate (c := c) e.delta.getContentString ([] : List (FunctionCall α)) none
        rw [map_nil, append_nil] at hnone
        exact ⟨rfl, hnone⟩
      · cases hx
  ended hf := absurd hf hfinished

theorem ChoiceKept.finish {e : IndexedChoice} {r : List (GeminiPart α) × ChoiceTools} (reason : GeminiFinishReason)
    (h : ChoiceKept unmarshal call entries candidates t seen finished) (hfinished : ¬ finished)
    (hcalls : Vetted Belongs (number call (toolDeltas (entries ++ [e]))))
    (happend : t.appendToolCallDeltas c (indexedToolCalls e.delta.toolCalls) = .ok t')
    (hok : t'.finishChoice unmarshal c = .ok r) :
    ChoiceKept unmarshal call (entries ++ [e])
      (candidates ++ [{ index := c, parts := textParts e.delta.getContentString ++ r.1, finishReason := some reason }])
      r.2 True True where
  seen_iff := by simp
  seen_of_finished _ := trivial
  silent h := absurd h (by simp)
  text := by
    obtain ⟨-, hassembled⟩ := h.unfinished hfinished
    rw [toolDeltas_concat] at hcalls
    have hparts := finishChoice_of_assembled (appendToolCallDeltas_assembled hassembled hcalls happend) hok
    rw [flatMap_append, String.join_append, h.text, content_concat, flatMap_singleton, hparts.1,
      texts_candidate]
  unfinished hn := absurd trivial hn
  ended _ := by
    obtain ⟨hinterim, hassembled⟩ := h.unfinished hfinished
    rw [toolDeltas_concat] at hcalls ⊢
    have hparts := finishChoice_of_assembled (appendToolCallDeltas_assembled hassembled hcalls happend) hok
    refine ⟨hparts.2, candidates, _, rfl, hinterim, rfl, ?_⟩
    rw [hparts.1, calls_candidate]

end Choices

/-! ## Chunks -/

def entriesOf (c : ℤ) (entries : List IndexedChoice) : List IndexedChoice := entries.filter fun e => e.index = c

def candidatesOf (c : ℤ) (candidates : List (GeminiChatCandidate α)) : List (GeminiChatCandidate α) :=
  candidates.filter fun x => x.index = c

/-- What has been put out of every choice. -/
def Kept (unmarshal : String → Option α) (call : ℤ → ℕ → ℕ) (entries : List IndexedChoice)
    (candidates : List (GeminiChatCandidate α)) (s : ChatToGeminiStreamState) : Prop :=
  ∀ c, ChoiceKept unmarshal (call c) (entriesOf c entries) (candidatesOf c candidates) (s.toolsByChoice c)
    (c ∈ s.seenChoices) (c ∈ s.finishedChoices)

def callsOf (call : ℤ → ℕ → ℕ) (entries : List IndexedChoice) (c : ℤ) : List (ℕ × ToolCallResponse) :=
  number (call c) (toolDeltas (entriesOf c entries))

/-- It can be told of every choice to which calls its deltas belong. -/
def Attributed (call : ℤ → ℕ → ℕ) (entries : List IndexedChoice) : Prop :=
  ∀ c, Vetted Belongs (callsOf call entries c)

section Chunks

variable {unmarshal : String → Option α} {call : ℤ → ℕ → ℕ} {entries l : List IndexedChoice} {e : IndexedChoice}
  {candidates : List (GeminiChatCandidate α)} {s s' : ChatToGeminiStreamState} {c : ℤ}
  {r : ChatToGeminiStreamState × List (GeminiChatCandidate α)}

theorem Attributed.left (h : Attributed call (entries ++ l)) : Attributed call entries := by
  intro c
  have hc := h c
  rw [callsOf, entriesOf, filter_append, toolDeltas, flatMap_append, number_append] at hc
  exact hc.left

theorem convertChoice_cases (hok : convertChoice unmarshal e s = .ok r) :
    (e.index ∈ s.finishedChoices ∧ e.delta.getContentString = "" ∧ e.delta.toolCalls = [] ∧
      r = ({ s with seenChoices := insert e.index s.seenChoices }, [])) ∨
    ∃ t, e.index ∉ s.finishedChoices ∧
      (s.toolsByChoice e.index).appendToolCallDeltas e.index (indexedToolCalls e.delta.toolCalls) = .ok t ∧
      ((e.finish = none ∧
        r = ({ s with
            seenChoices := insert e.index s.seenChoices
            toolsByChoice := Function.update s.toolsByChoice e.index t },
          if e.delta.getContentString ≠ "" then
            [{ index := e.index, parts := textParts e.delta.getContentString, finishReason := none }] else [])) ∨
      ∃ reason u, e.finish = some reason ∧ t.finishChoice unmarshal e.index = .ok u ∧
        r = ({ s with
            seenChoices := insert e.index s.seenChoices
            toolsByChoice := Function.update s.toolsByChoice e.index u.2
            finishedChoices := insert e.index s.finishedChoices },
          [{ index := e.index, parts := textParts e.delta.getContentString ++ u.1
             finishReason := some (geminiFinishReason reason) }])) := by
  unfold convertChoice at hok
  dsimp only at hok
  split at hok
  next hfinished =>
    split at hok
    · cases hok
    next hempty =>
      cases hok
      rw [not_or, not_not, not_not] at hempty
      exact .inl ⟨hfinished, hempty.1, hempty.2, rfl⟩
  next hfinished =>
    right
    split at hok
    · cases hok
    next t happend =>
      refine ⟨t, hfinished, happend, ?_⟩
      split at hok
      next hfinish =>
        cases hok
        exact .inl ⟨hfinish, rfl⟩
      next reason hfinish =>
        split at hok
        · cases hok
        next u hu =>
          cases hok
          exact .inr ⟨reason, u, hfinish, hu, rfl⟩

theorem index_of_convertChoice (hok : convertChoice unmarshal e s = .ok r) : ∀ x ∈ r.2, x.index = e.index := by
  intro x hx
  obtain ⟨-, -, -, rfl⟩ | ⟨t, -, -, ⟨-, rfl⟩ | ⟨_, u, -, -, rfl⟩⟩ := convertChoice_cases hok
  · cases hx
  · dsimp only at hx
    split_ifs at hx
    · rw [mem_singleton.mp hx]
    · cases hx
  · rw [mem_singleton.mp hx]

theorem convertChoice_frame (hok : convertChoice unmarshal e s = .ok r) (hc : c ≠ e.index) :
    r.1.toolsByChoice c = s.toolsByChoice c ∧ (c ∈ r.1.seenChoices ↔ c ∈ s.seenChoices) ∧
      (c ∈ r.1.finishedChoices ↔ c ∈ s.finishedChoices) := by
  obtain ⟨-, -, -, rfl⟩ | ⟨t, -, -, ⟨-, rfl⟩ | ⟨_, u, -, -, rfl⟩⟩ := convertChoice_cases hok <;>
    simp [hc]

theorem convertChoice_kept (h : Kept unmarshal call entries candidates s) (hcalls : Attributed call (entries ++ [e]))
    (hok : convertChoice unmarshal e s = .ok r) :
    Kept unmarshal call (entries ++ [e]) (candidates ++ r.2) r.1 := by
  intro c
  by_cases hc : c = e.index
  · subst hc
    have hentries : entriesOf e.index (entries ++ [e]) = entriesOf e.index entries ++ [e] := by simp [entriesOf]
    have hcandidates : candidatesOf e.index (candidates ++ r.2) = candidatesOf e.index candidates ++ r.2 := by
      rw [candidatesOf, filter_append, (filter_eq_self (l := r.2)).mpr]
      · rfl
      · intro x hx
        exact decide_eq_true (index_of_convertChoice hok x hx)
    have hcalls' := hcalls e.index
    rw [callsOf, hentries] at hcalls'
    rw [hentries, hcandidates]
    obtain ⟨hfinished, hcontent, htools, rfl⟩ | ⟨t, hfinished, happend, ⟨_, rfl⟩ | ⟨_, u, _, hu, rfl⟩⟩ :=
      convertChoice_cases hok
    · rw [append_nil]
      simpa using (h e.index).again hfinished hcontent htools
    · simpa using (h e.index).goOn hfinished hcalls' happend
    · simpa using (h e.index).finish _ hfinished hcalls' happend hu
  · obtain ⟨htools, hseen, hfinished⟩ := convertChoice_frame hok hc
    have hentries : entriesOf c (entries ++ [e]) = entriesOf c entries := by simp [entriesOf, Ne.symm hc]
    have hcandidates : candidatesOf c (candidates ++ r.2) = candidatesOf c candidates := by
      rw [candidatesOf, filter_append, (filter_eq_nil_iff (l := r.2)).mpr, append_nil]
      · rfl
      · intro x hx
        rw [index_of_convertChoice hok x hx]
        simpa using Ne.symm hc
    rw [hentries, hcandidates, htools, hseen, hfinished]
    exact h c

theorem convertChoices_kept (h : Kept unmarshal call entries candidates s) (hcalls : Attributed call (entries ++ l))
    (hok : tryEach (convertChoice unmarshal) l s = .ok r) :
    Kept unmarshal call (entries ++ l) (candidates ++ r.2) r.1 := by
  refine tryEach_induction (I := fun l s out => Kept unmarshal call (entries ++ l) (candidates ++ out) s) hok ?_ ?_
  · simpa using h
  · intro l1 e l2 s out r hl _ hs hr
    rw [hl, ← append_assoc, append_cons] at hcalls
    rw [← append_assoc, ← append_assoc]
    exact convertChoice_kept hs hcalls.left hr

end Chunks

/-! ## Usage -/

/-- Some entry has text or the end of a choice that has not ended. -/
def Speaks (s : ChatToGeminiStreamState) (entries : List IndexedChoice) : Prop :=
  ∃ e ∈ entries, e.index ∉ s.finishedChoices ∧ (e.delta.getContentString ≠ "" ∨ e.finish.isSome = true)

def lastUsage (chunks : List ChatChunk) : Option Accounting.Usage := (chunks.filterMap (·.usage)).getLast?

/-- The last response has the usage, as it came or as it is kept. -/
def Reported (out : List (GeminiChatResponse α)) (usage : Accounting.Usage) : Prop :=
  ∃ response, out.getLast? = some response ∧
    (response.usageMetadata = metadataOfUsage usage ∨
      response.usageMetadata = metadataOfUsage (usageFromChatUsage usage))

/-- What the loop over the entries of a chunk leaves as it is, and when it puts out something. -/
structure Passed (s : ChatToGeminiStreamState) (entries : List IndexedChoice) (s' : ChatToGeminiStreamState)
    (candidates : List (GeminiChatCandidate α)) : Prop where
  usage : s'.usage = s.usage
  usageEmitted : s'.usageEmitted = s.usageEmitted
  finalized : s'.finalized = s.finalized
  seen : s.seenChoices ⊆ s'.seenChoices
  finished : s.finishedChoices ⊆ s'.finishedChoices
  silent : candidates = [] → s'.finishedChoices = s.finishedChoices
  speaks : candidates ≠ [] → s'.seenChoices ≠ ∅ ∧ Speaks s entries

section Usage

variable {unmarshal : String → Option α} {call : ℤ → ℕ → ℕ} {entries l : List IndexedChoice} {e : IndexedChoice}
  {candidates : List (GeminiChatCandidate α)} {s s' : ChatToGeminiStreamState} {c estimatePromptTokens : ℤ}
  {r : ChatToGeminiStreamState × List (GeminiChatCandidate α)}

theorem lastUsage_concat (chunks : List ChatChunk) (chunk : ChatChunk) :
    lastUsage (chunks ++ [chunk]) = chunk.usage.or (lastUsage chunks) := by
  unfold lastUsage
  rw [filterMap_append]
  cases h : chunk.usage <;> simp [h]

theorem Speaks.mono {l2 : List IndexedChoice} (h : Speaks s l) : Speaks s (l ++ l2) := by
  obtain ⟨e, he, hopen⟩ := h
  exact ⟨e, mem_append_left l2 he, hopen⟩

theorem convertChoice_passed (h : Passed s l s' candidates) (hok : convertChoice unmarshal e s' = .ok r) :
    Passed s (l ++ [e]) r.1 (candidates ++ r.2) := by
  obtain ⟨-, -, -, rfl⟩ | ⟨t, hfinished, -, ⟨_, rfl⟩ | ⟨_, u, hreason, -, rfl⟩⟩ := convertChoice_cases hok
  · refine ⟨h.usage, h.usageEmitted, h.finalized, h.seen.trans (Finset.subset_insert _ _), h.finished, ?_, ?_⟩
    · rw [append_nil]
      exact h.silent
    · rw [append_nil]
      intro hne
      exact ⟨Finset.insert_ne_empty _ _, (h.speaks hne).2.mono⟩
  · refine ⟨h.usage, h.usageEmitted, h.finalized, h.seen.trans (Finset.subset_insert _ _), h.finished,
      fun hnil => h.silent (append_eq_nil_iff.mp hnil).1, fun hne => ⟨Finset.insert_ne_empty _ _, ?_⟩⟩
    by_cases hc : candidates = []
    · refine ⟨e, mem_append_right l mem_cons_self, fun hin => hfinished (h.finished hin), .inl fun hbody => ?_⟩
      rw [hc, nil_append, if_neg (not_not.mpr hbody)] at hne
      exact hne rfl
    · exact (h.speaks hc).2.mono
  · refine ⟨h.usage, h.usageEmitted, h.finalized, h.seen.trans (Finset.subset_insert _ _),
      h.finished.trans (Finset.subset_insert _ _), fun hnil => ?_, fun _ => ⟨Finset.insert_ne_empty _ _, ?_⟩⟩
    · cases (append_eq_nil_iff.mp hnil).2
    · refine ⟨e, mem_append_right l mem_cons_self, fun hin => hfinished (h.finished hin), .inr ?_⟩
      rw [hreason]
      rfl

theorem convertChoices_passed (hok : tryEach (convertChoice unmarshal) l s = .ok r) : Passed s l r.1 r.2 := by
  refine tryEach_induction (I := fun l s' out => Passed s l s' out) hok ?_ ?_
  · exact ⟨rfl, rfl, rfl, subset_rfl, subset_rfl, fun _ => rfl, fun h => absurd rfl h⟩
  · intro l1 e l2 s' out r _ _ h hr
    exact convertChoice_passed h hr

end Usage

/-! ## Streams -/

section Streams

variable {unmarshal : String → Option α} {call : ℤ → ℕ → ℕ} {chunk : ChatChunk} {chunks : List ChatChunk}
  {s s' : ChatToGeminiStreamState} {out : List (GeminiChatResponse α)} {estimatePromptTokens : ℤ}
  {r : ChatToGeminiStreamState × List (GeminiChatResponse α)}

def ChatToGeminiStreamState.takeUsage (s : ChatToGeminiStreamState) (chunk : ChatChunk) : ChatToGeminiStreamState :=
  { s with usage := (chunk.usage.map usageFromChatUsage).or s.usage }

theorem convertChunk_cases (hok : convertChunk unmarshal estimatePromptTokens chunk s = .ok r) :
    s.finalized = false ∧ ∃ u, tryEach (convertChoice unmarshal) chunk.choices (s.takeUsage chunk) = .ok u ∧
      ((u.2 = [] ∧ chunk.usage.isSome = true ∧ u.1.finishedChoices ≠ ∅ ∧
        r = ({ u.1 with usageEmitted := true }, [newGeminiStreamResponse [] u.1.usage estimatePromptTokens])) ∨
      (u.2 = [] ∧ ¬ (chunk.usage.isSome = true ∧ u.1.finishedChoices ≠ ∅) ∧ r = (u.1, [])) ∨
      (u.2 ≠ [] ∧ r = ({ u.1 with usageEmitted := u.1.usageEmitted || chunk.usage.isSome },
        [newGeminiStreamResponse u.2 chunk.usage estimatePromptTokens]))) := by
  unfold convertChunk at hok
  split_ifs at hok with hfinalized
  refine ⟨by simpa using hfinalized, ?_⟩
  dsimp only at hok
  split at hok
  · cases hok
  next s' candidates hu =>
    refine ⟨(s', candidates), hu, ?_⟩
    split_ifs at hok with hnil hsome
    · cases hok
      exact .inl ⟨hnil, hsome.1, hsome.2, rfl⟩
    · cases hok
      exact .inr (.inl ⟨hnil, hsome, rfl⟩)
    · cases hok
      exact .inr (.inr ⟨hnil, rfl⟩)

def candidatesIn (out : List (GeminiChatResponse α)) : List (GeminiChatCandidate α) := out.flatMap (·.candidates)

def entriesIn (chunks : List ChatChunk) : List IndexedChoice := chunks.flatMap (·.choices)

theorem candidatesIn_concat (candidates : List (GeminiChatCandidate α)) (usage : Option Accounting.Usage) :
    candidatesIn (out ++ [newGeminiStreamResponse candidates usage estimatePromptTokens]) =
      candidatesIn out ++ candidates := by
  simp [candidatesIn, newGeminiStreamResponse]

theorem convertChunk_kept (h : Kept unmarshal call (entriesIn chunks) (candidatesIn out) s)
    (hcalls : Attributed call (entriesIn (chunks ++ [chunk])))
    (hok : convertChunk unmarshal estimatePromptTokens chunk s = .ok r) :
    Kept unmarshal call (entriesIn (chunks ++ [chunk])) (candidatesIn (out ++ r.2)) r.1 ∧ r.1.finalized = false := by
  obtain ⟨hfinalized, u, hu, hr⟩ := convertChunk_cases hok
  have hpassed := convertChoices_passed hu
  have hentries : entriesIn (chunks ++ [chunk]) = entriesIn chunks ++ chunk.choices := by simp [entriesIn]
  rw [hentries] at hcalls ⊢
  have hkept := convertChoices_kept (s := s.takeUsage chunk) h hcalls hu
  obtain ⟨hnil, -, -, rfl⟩ | ⟨hnil, -, rfl⟩ | ⟨-, rfl⟩ := hr
  all_goals refine ⟨?_, hpassed.finalized.trans hfinalized⟩
  · rw [hnil] at hkept
    rw [candidatesIn_concat]
    exact hkept
  · rw [hnil, append_nil] at hkept
    rw [append_nil]
    exact hkept
  · rw [candidatesIn_concat]
    exact hkept

theorem kept_nil : Kept unmarshal call [] [] newChatToGeminiStreamState := by
  intro c
  simpa [newChatToGeminiStreamState, entriesOf, candidatesOf] using choiceKept_nil

theorem convertChunks_kept (hcalls : Attributed call (entriesIn chunks))
    (hok : tryEach (convertChunk unmarshal estimatePromptTokens) chunks newChatToGeminiStreamState = .ok (s, out)) :
    Kept unmarshal call (entriesIn chunks) (candidatesIn out) s ∧ s.finalized = false := by
  refine tryEach_induction (I := fun chunks s out =>
    Kept unmarshal call (entriesIn chunks) (candidatesIn out) s ∧ s.finalized = false) hok ⟨kept_nil, rfl⟩ ?_
  intro l1 chunk l2 s out r hl _ h hr
  rw [hl, append_cons, entriesIn, flatMap_append] at hcalls
  exact convertChunk_kept h.1 hcalls.left hr

/-- The last usage is kept. Once some usage has been put out, the last response has it, or no choice has ended yet. -/
structure UsageKept (chunks : List ChatChunk) (s : ChatToGeminiStreamState) (out : List (GeminiChatResponse α)) :
    Prop where
  usage : s.usage = (lastUsage chunks).map usageFromChatUsage
  emitted : s.usageEmitted = true → s.seenChoices ≠ ∅ ∧
    ∀ u, lastUsage chunks = some u → Reported out u ∨ s.finishedChoices = ∅

/-- Once a usage has been put out, a chunk with text or the end of a choice has a usage. -/
def CarriesUsage (s : ChatToGeminiStreamState) (chunk : ChatChunk) : Prop :=
  s.usageEmitted = true → Speaks s chunk.choices → chunk.usage.isSome = true

theorem reported_concat {candidates : List (GeminiChatCandidate α)} {u v : Accounting.Usage}
    (h : v = u ∨ v = usageFromChatUsage u) :
    Reported (out ++ [newGeminiStreamResponse candidates (some v) estimatePromptTokens]) u := by
  refine ⟨_, List.getLast?_concat, ?_⟩
  rcases h with rfl | rfl
  · exact .inl rfl
  · exact .inr rfl

theorem convertChunk_usage (h : UsageKept chunks s out) (hseen : s.finishedChoices ⊆ s.seenChoices)
    (hcarries : CarriesUsage s chunk) (hok : convertChunk unmarshal estimatePromptTokens chunk s = .ok r) :
    UsageKept (chunks ++ [chunk]) r.1 (out ++ r.2) := by
  obtain ⟨-, u, hu, hr⟩ := convertChunk_cases hok
  have hpassed := convertChoices_passed hu
  have husage : u.1.usage = (lastUsage (chunks ++ [chunk])).map usageFromChatUsage := by
    rw [hpassed.usage, ChatToGeminiStreamState.takeUsage, h.usage, lastUsage_concat]
    cases chunk.usage <;> rfl
  have hlast : ∀ v, chunk.usage = some v → lastUsage (chunks ++ [chunk]) = some v := by
    intro v hv
    rw [lastUsage_concat, hv]
    rfl
  obtain ⟨hnil, hsome, hfinished, rfl⟩ | ⟨hnil, hsome, rfl⟩ | ⟨hne, rfl⟩ := hr
  · -- a usage alone, after the end of some choice
    refine ⟨husage, fun _ => ⟨?_, fun v hv => .inl ?_⟩⟩
    · obtain ⟨c, hc⟩ := Finset.nonempty_iff_ne_empty.mpr hfinished
      rw [hpassed.silent hnil] at hc
      exact Finset.nonempty_iff_ne_empty.mp ⟨c, hpassed.seen (hseen hc)⟩
    · dsimp only
      rw [husage, hv]
      exact reported_concat (.inr rfl)
  · refine ⟨husage, fun hemitted => ?_⟩
    obtain ⟨hne, hreported⟩ := h.emitted (hpassed.usageEmitted.symm.trans hemitted)
    obtain ⟨c, hc⟩ := Finset.nonempty_iff_ne_empty.mpr hne
    refine ⟨Finset.nonempty_iff_ne_empty.mp ⟨c, hpassed.seen hc⟩, fun v hv => ?_⟩
    cases hchunk : chunk.usage with
    | none =>
      rw [lastUsage_concat, hchunk] at hv
      rw [append_nil]
      exact (hreported v hv).imp_right fun hempty => (hpassed.silent hnil).trans hempty
    | some =>
      rw [hchunk] at hsome
      exact .inr (by_contra fun hfinished => hsome ⟨rfl, hfinished⟩)
  · obtain ⟨hne', hspeaks⟩ := hpassed.speaks hne
    refine ⟨husage, fun hemitted => ⟨hne', fun v hv => .inl ?_⟩⟩
    have hsome : chunk.usage.isSome = true := by
      rcases Bool.or_eq_true_iff.mp hemitted with hemitted | hsome
      · exact hcarries (hpassed.usageEmitted.symm.trans hemitted) hspeaks
      · exact hsome
    obtain ⟨w, hw⟩ := Option.isSome_iff_exists.mp hsome
    rw [hlast w hw] at hv
    rw [hw]
    exact reported_concat (.inl (Option.some_inj.mp hv))

/-- Every chunk meets `CarriesUsage` in the state in which it is read. -/
def UsageCarried (unmarshal : String → Option α) (estimatePromptTokens : ℤ) (chunks : List ChatChunk) : Prop :=
  ∀ before chunk after s out, chunks = before ++ chunk :: after →
    tryEach (convertChunk unmarshal estimatePromptTokens) before newChatToGeminiStreamState = .ok (s, out) →
    CarriesUsage s chunk

theorem convertChunks_usage (hcalls : Attributed call (entriesIn chunks))
    (hcarried : UsageCarried unmarshal estimatePromptTokens chunks)
    (hok : tryEach (convertChunk unmarshal estimatePromptTokens) chunks newChatToGeminiStreamState = .ok (s, out)) :
    UsageKept chunks s out := by
  refine tryEach_induction (I := fun chunks s out => UsageKept chunks s out) hok
    ⟨rfl, fun h => absurd h Bool.false_ne_true⟩ ?_
  intro l1 chunk l2 s out r hl hrun h hr
  rw [hl, entriesIn, flatMap_append] at hcalls
  have hkept := (convertChunks_kept hcalls.left hrun).1
  exact convertChunk_usage h (fun c hc => (hkept c).seen_of_finished hc) (hcarried l1 chunk l2 s out hl hrun) hr

/-! ## The end of a stream -/

theorem mem_openChoices (h : Kept unmarshal call (entriesIn chunks) (candidatesIn out) s) {c : ℤ} :
    c ∈ s.openChoices ↔ c ∈ s.seenChoices ∧ c ∉ s.finishedChoices := by
  unfold ChatToGeminiStreamState.openChoices
  rw [Finset.mem_filter]
  refine and_congr_right fun _ => ⟨?_, .inr⟩
  rintro (hpending | hopen) hfinished
  · exact hpending ((h c).ended hfinished).1
  · exact hopen hfinished

/-- The candidate that ends a choice in the finalization. -/
def lastCandidate (unmarshal : String → Option α) (ds : List (ℕ × ToolCallResponse)) (c : ℤ) : GeminiChatCandidate α where
  index := c
  parts := (functionCalls unmarshal ds).map .functionCall
  finishReason := some .stop

theorem calls_lastCandidate (ds : List (ℕ × ToolCallResponse)) (c : ℤ) :
    (lastCandidate unmarshal ds c).calls = functionCalls unmarshal ds := by
  unfold lastCandidate GeminiChatCandidate.calls
  rw [filterMap_map]
  simp

theorem texts_lastCandidate (ds : List (ℕ × ToolCallResponse)) (c : ℤ) : (lastCandidate unmarshal ds c).texts = [] := by
  unfold lastCandidate GeminiChatCandidate.texts
  rw [filterMap_map]
  simp

theorem finalizeChoices {ds : ℤ → List (ℕ × ToolCallResponse)} {l : List ℤ} (hnodup : l.Nodup)
    (h : ∀ c ∈ l, Assembled (ds c) (s.toolsByChoice c))
    (hnamed : ∀ c ∈ l, ∀ k < count (ds c), (toolOf (ds c) k).name ≠ "") :
    ∃ t, tryEach (finalizeChoice unmarshal) l s = .ok ({ s with toolsByChoice := t },
      l.map fun c => lastCandidate unmarshal (ds c) c) := by
  induction l generalizing s with
  | nil => exact ⟨s.toolsByChoice, rfl⟩
  | cons c l ih =>
    obtain ⟨hc, hnodup⟩ := nodup_cons.mp hnodup
    obtain ⟨r, hr⟩ : ∃ r, (s.toolsByChoice c).finishChoice unmarshal c = .ok r :=
      finishChoice_of_named (h c mem_cons_self) (hnamed c mem_cons_self)
    have hparts := (finishChoice_of_assembled (h c mem_cons_self) hr).1
    have hstep : finalizeChoice unmarshal c s = .ok ({ s with toolsByChoice := Function.update s.toolsByChoice c r.2 },
        [lastCandidate unmarshal (ds c) c]) := by
      unfold finalizeChoice
      rw [hr]
      dsimp only
      rw [hparts]
      rfl
    have hrest : ∀ b ∈ l, Assembled (ds b) (Function.update s.toolsByChoice c r.2 b) := by
      intro b hb
      have hbc : b ≠ c := by
        rintro rfl
        exact hc hb
      rw [Function.update_of_ne hbc]
      exact h b (mem_cons_of_mem c hb)
    obtain ⟨t, ht⟩ := ih (s := { s with toolsByChoice := Function.update s.toolsByChoice c r.2 }) hnodup hrest
      fun b hb => hnamed b (mem_cons_of_mem c hb)
    exact ⟨t, tryThen_eq_ok.mpr ⟨_, _, hstep, ht, rfl⟩⟩

/-- What the finalization puts out: the ends of the choices that have not ended, or the usage if it is owed. -/
theorem finalize_cases (estimatePromptTokens : ℤ) (h : Kept unmarshal call (entriesIn chunks) (candidatesIn out) s) (hfinalized : s.finalized = false)
    (hnamed : ∀ c, ∀ k < count (callsOf call (entriesIn chunks) c),
      (toolOf (callsOf call (entriesIn chunks) c) k).name ≠ "") :
    ∃ s' last, finalize unmarshal estimatePromptTokens s = .ok (s', last) ∧ s'.finalized = true ∧
      candidatesIn last = (s.openChoices.sort (· ≤ ·)).map (fun c =>
        lastCandidate unmarshal (callsOf call (entriesIn chunks) c) c) ∧
      ((last = [] ∧ s.openChoices = ∅ ∧ (s.usage = none ∨ s.usageEmitted = true)) ∨
        ∃ candidates, last = [newGeminiStreamResponse candidates s.usage estimatePromptTokens]) := by
  obtain ⟨t, ht⟩ : ∃ t, tryEach (finalizeChoice unmarshal) (s.openChoices.sort (· ≤ ·)) s =
      .ok ({ s with toolsByChoice := t }, (s.openChoices.sort (· ≤ ·)).map fun c =>
        lastCandidate unmarshal (callsOf call (entriesIn chunks) c) c) :=
    finalizeChoices (s.openChoices.sort_nodup (· ≤ ·))
      (fun c hc => ((h c).unfinished ((mem_openChoices h).mp ((Finset.mem_sort _).mp hc)).2).2) fun c _ => hnamed c
  unfold finalize
  rw [if_neg (by rw [hfinalized]; exact Bool.false_ne_true), ht]
  dsimp only
  by_cases hnil : s.openChoices = ∅
  · rw [hnil, Finset.sort_empty, map_nil, if_pos rfl]
    split_ifs with hdone
    · refine ⟨_, [], rfl, rfl, rfl, .inl ⟨rfl, rfl, ?_⟩⟩
      exact hdone.imp_left Option.isNone_iff_eq_none.mp
    · exact ⟨_, _, rfl, rfl, rfl, .inr ⟨[], rfl⟩⟩
  · have hne : s.openChoices.sort (· ≤ ·) ≠ [] := by
      intro hsort
      rw [← s.openChoices.sort_toFinset (· ≤ ·), hsort] at hnil
      exact hnil rfl
    rw [if_neg (by simpa using hne)]
    refine ⟨_, _, rfl, rfl, ?_, .inr ⟨_, rfl⟩⟩
    simp [candidatesIn, newGeminiStreamResponse]

theorem candidatesOf_ends {l : List ℤ} (hnodup : l.Nodup) {f : ℤ → GeminiChatCandidate α} (hf : ∀ c, (f c).index = c)
    (c : ℤ) : candidatesOf c (l.map f) = if c ∈ l then [f c] else [] := by
  unfold candidatesOf
  rw [filter_map]
  have hfilter : l.filter ((fun x => decide (x.index = c)) ∘ f) = l.filter (· = c) := by
    refine filter_congr fun b _ => ?_
    simp [hf]
  rw [hfilter, filter_eq, map_replicate, hnodup.count]
  split_ifs <;> rfl

/-- What comes out of a stream: of each choice its text, its calls, and one end after which nothing comes. -/
structure Translated (unmarshal : String → Option α) (call : ℤ → ℕ → ℕ) (entries : List IndexedChoice)
    (candidates : List (GeminiChatCandidate α)) : Prop where
  text : ∀ c, String.join ((candidatesOf c candidates).flatMap (·.texts)) = content (entriesOf c entries)
  calls : ∀ c, (candidatesOf c candidates).flatMap (·.calls) = functionCalls unmarshal (callsOf call entries c)
  finish : ∀ c, entriesOf c entries ≠ [] → ∃ before last, candidatesOf c candidates = before ++ [last] ∧
    last.finishReason.isSome = true ∧ ∀ x ∈ before, x.finishReason = none
  others : ∀ c, entriesOf c entries = [] → candidatesOf c candidates = []

theorem calls_of_ended {ds : List (ℕ × ToolCallResponse)} {before : List (GeminiChatCandidate α)}
    {last : GeminiChatCandidate α} (hbefore : ∀ x ∈ before, Interim x) (hlast : last.calls = functionCalls unmarshal ds) :
    (before ++ [last]).flatMap (·.calls) = functionCalls unmarshal ds := by
  rw [flatMap_append, flatMap_singleton, hlast,
    flatMap_eq_nil_iff.mpr fun x hx => (hbefore x hx).2, nil_append]

theorem finalize_translated (h : Kept unmarshal call (entriesIn chunks) (candidatesIn out) s) :
    Translated unmarshal call (entriesIn chunks) (candidatesIn out ++ (s.openChoices.sort (· ≤ ·)).map fun c =>
      lastCandidate unmarshal (callsOf call (entriesIn chunks) c) c) := by
  have hof : ∀ c, candidatesOf c (candidatesIn out ++ (s.openChoices.sort (· ≤ ·)).map fun c =>
      lastCandidate unmarshal (callsOf call (entriesIn chunks) c) c) = candidatesOf c (candidatesIn out) ++
        if c ∈ s.openChoices then [lastCandidate unmarshal (callsOf call (entriesIn chunks) c) c] else [] := by
    intro c
    rw [candidatesOf, filter_append]
    congr 1
    exact (candidatesOf_ends (s.openChoices.sort_nodup _) (fun _ => rfl) c).trans
      (if_congr (Finset.mem_sort _) rfl rfl)
  have hcases : ∀ c, (c ∈ s.openChoices ∧ ∀ x ∈ candidatesOf c (candidatesIn out), Interim x) ∨
      (c ∉ s.openChoices ∧ c ∈ s.finishedChoices) ∨ (c ∉ s.openChoices ∧ entriesOf c (entriesIn chunks) = []) := by
    intro c
    rw [mem_openChoices h]
    by_cases hfinished : c ∈ s.finishedChoices
    · exact .inr (.inl ⟨fun hopen => hopen.2 hfinished, hfinished⟩)
    by_cases hseen : c ∈ s.seenChoices
    · exact .inl ⟨⟨hseen, hfinished⟩, ((h c).unfinished hfinished).1⟩
    · exact .inr (.inr ⟨fun hopen => hseen hopen.1, not_not.mp fun hne => hseen ((h c).seen_iff.mpr hne)⟩)
  refine ⟨fun c => ?_, fun c => ?_, fun c hne => ?_, fun c hnil => ?_⟩
  · rw [hof, flatMap_append, String.join_append, (h c).text]
    split_ifs
    · rw [flatMap_singleton, texts_lastCandidate, String.join_nil, String.append_empty]
    · exact String.append_empty
  · rw [hof]
    obtain ⟨hopen, hinterim⟩ | ⟨hclosed, hfinished⟩ | ⟨hclosed, hnil⟩ := hcases c
    · rw [if_pos hopen]
      exact calls_of_ended hinterim (calls_lastCandidate _ c)
    · rw [if_neg hclosed, append_nil]
      obtain ⟨-, before, last, heq, hbefore, -, hcalls⟩ := (h c).ended hfinished
      rw [heq]
      exact calls_of_ended hbefore hcalls
    · rw [if_neg hclosed, (h c).silent hnil, callsOf, hnil]
      rfl
  · rw [hof]
    obtain ⟨hopen, hinterim⟩ | ⟨hclosed, hfinished⟩ | ⟨hclosed, hnil⟩ := hcases c
    · rw [if_pos hopen]
      exact ⟨_, _, rfl, rfl, fun x hx => (hinterim x hx).1⟩
    · rw [if_neg hclosed, append_nil]
      obtain ⟨-, before, last, heq, hbefore, hreason, -⟩ := (h c).ended hfinished
      exact ⟨before, last, heq, hreason, fun x hx => (hbefore x hx).1⟩
    · exact absurd hnil hne
  · rw [hof, (h c).silent hnil, if_neg, nil_append]
    intro hopen
    exact ((h c).seen_iff.mp ((mem_openChoices h).mp hopen).1) hnil

theorem usageCarried_of_last (h : ∀ chunk ∈ chunks.dropLast, chunk.usage = none) :
    UsageCarried unmarshal estimatePromptTokens chunks := by
  intro before chunk after s out hsplit hok hemitted
  have hbefore : ∀ chunk ∈ before, chunk.usage = none := by
    intro b hb
    refine h b ?_
    rw [hsplit, dropLast_append_cons]
    exact mem_append_left _ hb
  have hquiet : s.usageEmitted = false := by
    refine tryEach_induction (I := fun _ s _ => s.usageEmitted = false) hok rfl ?_
    intro l1 b l2 s out r hl _ hs hr
    have hnone : b.usage = none := hbefore b (by rw [hl]; exact mem_append_right l1 mem_cons_self)
    obtain ⟨-, u, hu, hcases⟩ := convertChunk_cases hr
    have hstill : u.1.usageEmitted = false := (convertChoices_passed hu).usageEmitted.trans hs
    obtain ⟨-, hsome, -, -⟩ | ⟨-, -, rfl⟩ | ⟨-, rfl⟩ := hcases
    · rw [hnone] at hsome
      cases hsome
    · exact hstill
    · show (u.1.usageEmitted || b.usage.isSome) = false
      rw [hstill, hnone]
      rfl
  rw [hquiet] at hemitted
  cases hemitted

/-- **Chat chunks become Gemini responses with every call once and whole.** The deltas of a choice are told apart by
`call`, and each call has a name. After the chunks have been accepted, the finalization succeeds. Of each choice the
texts make up its content, the calls come in the order in which they began, with their id, name and all their
arguments, and the one finish reason comes last. A second finalization puts out nothing. Where a chunk that speaks after
a usage was put out has a usage itself, the last response has the last usage of the stream. -/
theorem chat_stream_to_gemini_stream (hcalls : Attributed call (entriesIn chunks))
    (hnamed : ∀ c, ∀ k < count (callsOf call (entriesIn chunks) c),
      (toolOf (callsOf call (entriesIn chunks) c) k).name ≠ "")
    (haccepted : tryEach (convertChunk unmarshal estimatePromptTokens) chunks newChatToGeminiStreamState =
      .ok (s, out)) :
    ∃ s' last, finalize unmarshal estimatePromptTokens s = .ok (s', last) ∧
      Translated unmarshal call (entriesIn chunks) (candidatesIn (out ++ last)) ∧
      finalize unmarshal estimatePromptTokens s' = .ok (s', []) ∧
      (UsageCarried unmarshal estimatePromptTokens chunks → ∀ u, lastUsage chunks = some u →
        Reported (out ++ last) u) := by
  obtain ⟨hkept, hfinalized⟩ := convertChunks_kept hcalls haccepted
  obtain ⟨s', last, hfinalize, hfinalized', hcandidates, hlast⟩ :=
    finalize_cases estimatePromptTokens hkept hfinalized hnamed
  refine ⟨s', last, hfinalize, ?_, ?_, fun hcarried u hu => ?_⟩
  · rw [candidatesIn, flatMap_append]
    show Translated unmarshal call (entriesIn chunks) (candidatesIn out ++ candidatesIn last)
    rw [hcandidates]
    exact finalize_translated hkept
  · unfold finalize
    rw [if_pos hfinalized']
  · have husage := convertChunks_usage hcalls hcarried haccepted
    have hsome : s.usage = some (usageFromChatUsage u) := by
      rw [husage.usage, hu]
      rfl
    obtain ⟨rfl, hclosed, hdone⟩ | ⟨_, rfl⟩ := hlast
    · rw [hsome] at hdone
      obtain ⟨hseen, hreported⟩ := husage.emitted (hdone.resolve_left (Option.some_ne_none _))
      rw [append_nil]
      refine (hreported u hu).resolve_right fun hempty => ?_
      obtain ⟨c, hc⟩ := Finset.nonempty_iff_ne_empty.mpr hseen
      have hopen := (mem_openChoices hkept).mpr ⟨hc, by rw [hempty]; exact Finset.notMem_empty c⟩
      rw [hclosed] at hopen
      exact Finset.notMem_empty c hopen
    · rw [hsome]
      exact reported_concat (.inr rfl)

/-- Text and two calls, interleaved, then the finish reason, then the usage. -/
def callStream : List ChatChunk :=
  [{ choices := [{ delta := {
        content := some "hi", toolCalls := [{ index := some 0, id := "a", name := "f", arguments := "1" }] } }] },
    { choices := [{ delta := {
        toolCalls := [{ index := some 1, id := "b", name := "g" }, { index := some 0, arguments := "2" }] } }] },
    { choices := [{ finishReason := some "tool_calls" }] },
    { usage := some { promptTokens := 5, completionTokens := 7, totalTokens := 12 } }]

/-- The first and the third delta are of the first call. -/
def callStreamCalls (c : ℤ) (n : ℕ) : ℕ := if c = 0 ∧ n = 1 then 1 else 0

theorem callsOf_callStream (c : ℤ) : callsOf callStreamCalls (entriesIn callStream) c =
    if c = 0 then
      [(0, { index := some 0, id := "a", name := "f", arguments := "1" }),
        (1, { index := some 1, id := "b", name := "g" }), (0, { index := some 0, arguments := "2" })]
    else [] := by
  split_ifs with hc
  · subst hc
    decide
  · have hnone : entriesOf c (entriesIn callStream) = [] := by
      simp [entriesIn, callStream, entriesOf, Ne.symm hc]
    rw [callsOf, hnone]
    rfl

theorem attributed_callStream : Attributed callStreamCalls (entriesIn callStream) := by
  intro c
  rw [callsOf_callStream]
  split_ifs
  · have h : Vetted Belongs ((([] ++ [((0 : ℕ), ({ index := some 0, id := "a", name := "f", arguments := "1" } :
        ToolCallResponse))]) ++ [(1, { index := some 1, id := "b", name := "g" })]) ++
          [(0, { index := some 0, arguments := "2" })]) := by
      rw [vetted_concat, vetted_concat, vetted_concat]
      exact ⟨⟨⟨vetted_nil, by decide⟩, by decide⟩, by decide⟩
    exact h
  · exact vetted_nil

theorem named_callStream (c : ℤ) : ∀ k < count (callsOf callStreamCalls (entriesIn callStream) c),
    (toolOf (callsOf callStreamCalls (entriesIn callStream) c) k).name ≠ "" := by
  rw [callsOf_callStream]
  split_ifs
  · decide
  · decide

theorem chat_stream_to_gemini_stream_of_calls : ∃ s out s' last,
    tryEach (convertChunk (some : String → Option String) 3) callStream newChatToGeminiStreamState = .ok (s, out) ∧
      finalize some 3 s = .ok (s', last) ∧
      Translated some callStreamCalls (entriesIn callStream) (candidatesIn (out ++ last)) ∧
      Reported (out ++ last) { promptTokens := 5, completionTokens := 7, totalTokens := 12 } := by
  have hok : (tryEach (convertChunk (some : String → Option String) 3) callStream
      newChatToGeminiStreamState).isOk = true := by decide +kernel
  cases hrun : tryEach (convertChunk (some : String → Option String) 3) callStream newChatToGeminiStreamState with
  | error =>
    rw [hrun] at hok
    cases hok
  | ok r =>
    obtain ⟨s', last, hfinalize, htranslated, -, husage⟩ :=
      chat_stream_to_gemini_stream attributed_callStream named_callStream hrun
    have hlast : ∀ chunk ∈ callStream.dropLast, chunk.usage = none := by decide
    exact ⟨r.1, r.2, s', last, rfl, hfinalize, htranslated, husage (usageCarried_of_last hlast) _ rfl⟩

theorem finalize_of_closed (hfinalized : s.finalized = false) (hclosed : s.openChoices = ∅)
    (hemitted : s.usageEmitted = true) :
    finalize unmarshal estimatePromptTokens s = .ok ({ s with finalized := true }, []) := by
  have hloop : tryEach (finalizeChoice unmarshal) (s.openChoices.sort (· ≤ ·)) s = .ok (s, []) := by
    rw [hclosed, Finset.sort_empty]
    rfl
  unfold finalize
  rw [if_neg (by rw [hfinalized]; exact Bool.false_ne_true), hloop]
  dsimp only
  rw [if_pos rfl, if_pos (.inr hemitted)]

/-- The usage comes with the text, and the finish reason alone: the last response has the estimate. -/
theorem usage_replaced_by_estimate : ∃ s out,
    tryEach (convertChunk (some : String → Option String) 3)
      [{ choices := [{ delta := { content := some "hi" } }]
         usage := some { promptTokens := 5, completionTokens := 7, totalTokens := 12 } },
        { choices := [{ finishReason := some "stop" }] }] newChatToGeminiStreamState = .ok (s, out) ∧
      finalize (some : String → Option String) 3 s = .ok ({ s with finalized := true }, []) ∧
      out.getLast?.map (·.usageMetadata) = some { promptTokenCount := 3, totalTokenCount := 3 } ∧
      ¬ Reported out { promptTokens := 5, completionTokens := 7, totalTokens := 12 } := by
  have hfacts : ((tryEach (convertChunk (some : String → Option String) 3)
      [{ choices := [{ delta := { content := some "hi" } }]
         usage := some { promptTokens := 5, completionTokens := 7, totalTokens := 12 } },
        { choices := [{ finishReason := some "stop" }] }] newChatToGeminiStreamState).toOption.map fun r =>
      ((r.1.finalized, r.1.openChoices, r.1.usageEmitted), r.2.getLast?.map (·.usageMetadata))) =
        some ((false, ∅, true), some { promptTokenCount := 3, totalTokenCount := 3 }) := by decide +kernel
  cases hrun : tryEach (convertChunk (some : String → Option String) 3)
      [{ choices := [{ delta := { content := some "hi" } }]
         usage := some { promptTokens := 5, completionTokens := 7, totalTokens := 12 } },
        { choices := [{ finishReason := some "stop" }] }] newChatToGeminiStreamState with
  | error e =>
    rw [hrun] at hfacts
    cases hfacts
  | ok r =>
    rw [hrun] at hfacts
    have hall := Option.some_inj.mp hfacts
    simp only [Prod.mk.injEq] at hall
    obtain ⟨⟨hfinalized, hclosed, hemitted⟩, hlast⟩ := hall
    refine ⟨r.1, r.2, rfl, finalize_of_closed hfinalized hclosed hemitted, hlast, ?_⟩
    rintro ⟨_, hresponse, hreported⟩
    rw [hresponse] at hlast
    have hmetadata := Option.some_inj.mp hlast
    dsimp only at hmetadata
    rw [hmetadata] at hreported
    revert hreported
    decide

end Streams

end Desktop2Stereo.ChatToGemini
