import Desktop2Stereo.Lib.Checked
import Desktop2Stereo.Model.ClaudeRequests

/-!
# Chat conversations as Claude conversations

The first pass joins neighbours of one role, the second one regroups the results of tools. Each is described by what it
does to the texts, the calls and the results of a list of messages.

* `Kept`, **`chat_request_to_claude_request`**: when the conversation is kept.
-/

namespace Desktop2Stereo.Requests

open GoText List ClaudeMediaMessage ClaudeContent

/-! ## Texts, calls and results -/

/-- Texts come out in order, with their roles. Two may be joined by a space, and three dots may be added. -/
inductive Rendered : List (String × String) → List (String × String) → Prop
  | nil : Rendered [] []
  | text {S O : List (String × String)} (role s : String) (h : s ≠ "") (hr : Rendered S O) :
    Rendered (S ++ [(role, s)]) (O ++ [(role, s)])
  | dots {S O : List (String × String)} (role : String) (hr : Rendered S O) : Rendered S (O ++ [(role, "...")])
  | join {S O : List (String × String)} (role x s : String) (hr : Rendered S (O ++ [(role, x)])) :
    Rendered (S ++ if s ≠ "" then [(role, s)] else []) (O ++ [(role, x ++ " " ++ s)])

namespace Rendered

variable {S O : List (String × String)}

theorem texts (h : Rendered S O) (role : String) (l : List String) (hl : ∀ s ∈ l, s ≠ "") :
    Rendered (S ++ l.map fun s => (role, s)) (O ++ l.map fun s => (role, s)) := by
  induction l using List.reverseRecOn with
  | nil => simpa using h
  | append_singleton l s ih =>
    rw [map_append, ← append_assoc, ← append_assoc]
    exact .text role s (hl s (by simp)) (ih fun t ht => hl t (mem_append_left _ ht))

theorem filter (h : Rendered S O) (p : String → Bool) :
    Rendered (S.filter fun x => p x.1) (O.filter fun x => p x.1) := by
  induction h with
  | nil => exact .nil
  | text role s hs _ ih =>
    rw [filter_append, filter_append]
    cases hp : p role with
    | true => simpa [hp] using ih.text role s hs
    | false => simpa [hp] using ih
  | dots role _ ih =>
    rw [filter_append]
    cases hp : p role with
    | true => simpa [hp] using ih.dots role
    | false => simpa [hp] using ih
  | join role x s _ ih =>
    rw [filter_append] at ih ⊢
    rw [filter_append]
    cases hp : p role with
    | true =>
      have hjoin := Rendered.join role x s (by simpa [hp] using ih)
      by_cases hs : s = "" <;> simpa [hp, hs] using hjoin
    | false => by_cases hs : s = "" <;> simpa [hp, hs] using ih

theorem placeholder (h : Rendered S O) (role : String) : Rendered S ((role, "...") :: O) := by
  induction h with
  | nil => exact (Rendered.nil).dots role
  | text r s hs _ ih => exact ih.text r s hs
  | dots r _ ih => exact ih.dots r
  | @join _ O r x s _ ih => exact Rendered.join (O := (role, "...") :: O) r x s ih

end Rendered

/-- The texts of a message that are not empty, with its role; those of a tool message are its result. -/
def Message.texts (m : Message) : List (String × String) :=
  if m.role = "tool" then [] else (textsOf m.parseContent).map fun s => (m.role, s)

def Message.result (m : Message) : List (String × MessageContent) :=
  if m.role = "tool" then [(m.toolCallID, m.content.shown)] else []

/-- A message of the kind that is kept: one of the four roles, text only, calls only of the assistant. -/
structure Conversational (m : Message) : Prop where
  role : m.role = "system" ∨ m.role = "user" ∨ m.role = "assistant" ∨ m.role = "tool"
  content : m.content = .absent ∨ (∃ s, m.content = .string s) ∨ ∃ l : List String, m.content = .parts (l.map .text)
  toolCalls : m.toolCalls ≠ none → m.role = "assistant"
  toolCallID : m.role = "tool" → m.toolCallID ≠ ""

/-! ## The first pass -/

/-- A message by itself, and one that is taken up by the last one. -/
def freshMessage (m : Message) : Message := { fmtMessage m with content := m.content.shown }

def mergedMessage (lastMessage m : Message) : Message :=
  { fmtMessage m with content := (MessageContent.string (lastMessage.stringContent ++ " " ++ m.stringContent)).shown }

def lastOf (F : List Message) : Message := F.getLast?.getD { role := "tool" }

section First

variable {m a : Message} {ms F : List Message}

theorem formatState_eq (ms : List Message) :
    ms.foldl formatStep ([], { role := "tool" }) = (formatMessages ms, lastOf (formatMessages ms)) := by
  induction ms using List.reverseRecOn with
  | nil => rfl
  | append_singleton ms m ih =>
    unfold formatMessages
    rw [foldl_append, ih]
    simp only [foldl_cons, foldl_nil, formatStep]
    split_ifs <;> simp [lastOf]

theorem formatMessages_concat (ms : List Message) (m : Message) : formatMessages (ms ++ [m]) =
    if Merges (lastOf (formatMessages ms)) m then
      (formatMessages ms).dropLast ++ [mergedMessage (lastOf (formatMessages ms)) m]
    else formatMessages ms ++ [freshMessage m] := by
  conv_lhs => unfold formatMessages
  rw [foldl_append, formatState_eq]
  simp only [foldl_cons, foldl_nil, formatStep]
  split_ifs <;> rfl

theorem Conversational.role_eq (h : Conversational m) : normalizeRole m = m.role := by
  have hid := h.toolCallID
  rcases h.role with hr | hr | hr | hr <;> simp_all [normalizeRole]

theorem Merges.eq_concat (h : Merges (lastOf F) m) : F = F.dropLast ++ [lastOf F] := by
  unfold lastOf at h ⊢
  cases hlast : F.getLast? with
  | none => simp [hlast, Merges] at h
  | some a => exact (dropLast_append_getLast? a hlast).symm

theorem flatMap_formatMessages {γ : Type} (g : Message → List γ) (ms : List Message) (m : Message) :
    (¬ Merges (lastOf (formatMessages ms)) m ∧
      (formatMessages (ms ++ [m])).flatMap g = (formatMessages ms).flatMap g ++ g (freshMessage m)) ∨
    (Merges (lastOf (formatMessages ms)) m ∧ ∃ l, (formatMessages ms).flatMap g = l ++ g (lastOf (formatMessages ms)) ∧
      (formatMessages (ms ++ [m])).flatMap g = l ++ g (mergedMessage (lastOf (formatMessages ms)) m)) := by
  rw [formatMessages_concat]
  by_cases hmerges : Merges (lastOf (formatMessages ms)) m
  · refine .inr ⟨hmerges, (formatMessages ms).dropLast.flatMap g, ?_, by simp [hmerges]⟩
    conv_lhs => rw [hmerges.eq_concat]
    simp
  · exact .inl ⟨hmerges, by simp [hmerges]⟩

/-- A formatted message: its content is not absent and not empty. -/
structure Formatted (f : Message) : Prop where
  role : f.role = "system" ∨ f.role = "user" ∨ f.role = "assistant" ∨ f.role = "tool"
  content : (∃ s ≠ "", f.content = .string s) ∨ ∃ l : List String, f.content = .parts (l.map .text)
  toolCalls : f.toolCalls ≠ none → f.role = "assistant"

theorem isStringContent_iff : m.isStringContent = true ↔ ∃ s, m.content = .string s := by
  unfold Message.isStringContent
  cases m.content <;> simp

theorem space_ne_empty (s t : String) : s ++ " " ++ t ≠ "" := by simp [String.append_eq_empty_iff]

theorem Conversational.fresh (h : Conversational m) : Formatted (freshMessage m) where
  role := by simpa [freshMessage, fmtMessage, h.role_eq] using h.role
  content := by
    rcases h.content with hc | ⟨s, hc⟩ | ⟨l, hc⟩
    · exact .inl ⟨"...", by decide, by simp [freshMessage, hc, MessageContent.shown]⟩
    · by_cases hs : s = "" <;> simp [freshMessage, hc, MessageContent.shown, hs]
    · exact .inr ⟨l, by simp [freshMessage, hc, MessageContent.shown]⟩
  toolCalls := by simp +contextual [freshMessage, fmtMessage]

theorem Merges.string (h : Merges a m) : ∃ s t, a.content = .string s ∧ m.content = .string t ∧
    (mergedMessage a m).content = .string (s ++ " " ++ t) := by
  obtain ⟨s, hs⟩ := isStringContent_iff.mp h.2.2.1
  obtain ⟨t, ht⟩ := isStringContent_iff.mp h.2.2.2
  exact ⟨s, t, hs, ht, by simp [mergedMessage, Message.stringContent, hs, ht, MessageContent.shown]⟩

theorem Merges.merged (h : Merges a m) (hm : Conversational m) : Formatted (mergedMessage a m) := by
  obtain ⟨s, t, -, -, hcontent⟩ := h.string
  exact ⟨hm.fresh.role, .inl ⟨_, space_ne_empty s t, hcontent⟩, hm.fresh.toolCalls⟩

theorem formatted_formatMessages (h : ∀ m ∈ ms, Conversational m) : ∀ f ∈ formatMessages ms, Formatted f := by
  induction ms using List.reverseRecOn with
  | nil => simp [formatMessages]
  | append_singleton ms m ih =>
    have hm := h m (by simp)
    have hms := ih fun a ha => h a (mem_append_left _ ha)
    rw [formatMessages_concat]
    intro f hf
    split_ifs at hf with hmerges <;> rcases mem_append.mp hf with hf | hf
    · exact hms f (mem_of_mem_dropLast hf)
    · rw [mem_singleton.mp hf]
      exact hmerges.merged hm
    · exact hms f hf
    · rw [mem_singleton.mp hf]
      exact hm.fresh

/-! ### Texts -/

theorem texts_of_string {s : String} (hrole : m.role ≠ "tool") (h : m.content = .string s) :
    m.texts = if s ≠ "" then [(m.role, s)] else [] := by
  by_cases hs : s = "" <;> simp [Message.texts, hrole, Message.parseContent, textsOf, h, hs, MediaContent.text?]

theorem rendered_fresh {S O : List (String × String)} (hr : Rendered S O) (hm : Conversational m) :
    Rendered (S ++ m.texts) (O ++ (freshMessage m).texts) := by
  have hrole : (freshMessage m).role = m.role := hm.role_eq
  have hcontent : (freshMessage m).content = m.content.shown := rfl
  by_cases htool : m.role = "tool"
  · simpa [Message.texts, hrole, htool] using hr
  rcases hm.content with hc | ⟨s, hc⟩ | ⟨l, hc⟩
  · have hnone : m.texts = [] := by simp [Message.texts, Message.parseContent, hc, textsOf]
    rw [hnone, append_nil, texts_of_string (by rwa [hrole]) (by rw [hcontent, hc]; rfl)]
    exact hr.dots _
  · rw [texts_of_string htool hc, texts_of_string (by rwa [hrole]) (by rw [hcontent, hc]; rfl), hrole]
    by_cases hs : s = ""
    · simpa [hs] using hr.dots m.role
    · simpa [hs] using hr.text m.role s hs
  · have hsame : (freshMessage m).texts = m.texts := by
      simp [Message.texts, Message.parseContent, hrole, hcontent, hc, MessageContent.shown]
    rw [hsame, Message.texts, if_neg htool]
    exact hr.texts _ _ fun s hs => by simpa using (mem_filter.mp hs).2

/-- **The first pass keeps the texts.** -/
theorem rendered_formatMessages (h : ∀ m ∈ ms, Conversational m) :
    Rendered (ms.flatMap (·.texts)) ((formatMessages ms).flatMap (·.texts)) := by
  induction ms using List.reverseRecOn with
  | nil => exact .nil
  | append_singleton ms m ih =>
    have hm := h m (by simp)
    have hms : ∀ a ∈ ms, Conversational a := fun a ha => h a (mem_append_left _ ha)
    have hrec := ih hms
    rw [flatMap_append, flatMap_singleton]
    obtain ⟨-, hnew⟩ | ⟨hmerges, l, hold, hnew⟩ := flatMap_formatMessages (·.texts) ms m <;> rw [hnew]
    · exact rendered_fresh hrec hm
    · obtain ⟨s, t, hs, ht, hcontent⟩ := hmerges.string
      have hrole : (lastOf (formatMessages ms)).role = m.role := hmerges.1.trans hm.role_eq
      have hmem : lastOf (formatMessages ms) ∈ formatMessages ms := hmerges.eq_concat ▸ by simp [lastOf]
      have hne : s ≠ "" := by
        rcases (formatted_formatMessages hms _ hmem).content with ⟨u, _, hc⟩ | ⟨l, hc⟩ <;> simp_all
      have hmerged : (mergedMessage (lastOf (formatMessages ms)) m).role = m.role := hm.role_eq
      rw [hold, texts_of_string hmerges.2.1 hs, if_pos hne, hrole] at hrec
      have htool := hrole ▸ hmerges.2.1
      rw [texts_of_string (by rwa [hmerged]) hcontent, if_pos (space_ne_empty s t), hmerged, texts_of_string htool ht]
      exact hrec.join _ s t

/-! ### Results and calls -/

theorem shown_shown (c : MessageContent) : c.shown.shown = c.shown := by
  cases c with
  | string s => by_cases hs : s = "" <;> simp [MessageContent.shown, hs]
  | _ => rfl

theorem result_fresh (hm : Conversational m) : (freshMessage m).result = m.result := by
  by_cases htool : m.role = "tool" <;> simp [Message.result, freshMessage, fmtMessage, hm.role_eq, shown_shown, htool]

theorem results_formatMessages (h : ∀ m ∈ ms, Conversational m) :
    (formatMessages ms).flatMap (·.result) = ms.flatMap (·.result) := by
  induction ms using List.reverseRecOn with
  | nil => rfl
  | append_singleton ms m ih =>
    have hm := h m (by simp)
    have hrec := ih fun a ha => h a (mem_append_left _ ha)
    rw [flatMap_append, flatMap_singleton]
    obtain ⟨-, hnew⟩ | ⟨hmerges, l, _, hnew⟩ := flatMap_formatMessages (·.result) ms m <;> rw [hnew]
    · rw [result_fresh hm, hrec]
    · have hrole := hmerges.1.trans hm.role_eq
      have htool : m.role ≠ "tool" := hrole ▸ hmerges.2.1
      simp_all [Message.result, mergedMessage, fmtMessage, hm.role_eq]

/-- Calls are lost: the next message takes up one with calls. -/
def Drops (a b : Message) : Prop :=
  a.role = "assistant" ∧ b.role = "assistant" ∧ a.parseToolCalls ≠ [] ∧ (∀ l, a.content ≠ .parts l) ∧
    b.isStringContent = true

theorem calls_fresh (hm : Conversational m) : (freshMessage m).parseToolCalls = m.parseToolCalls := by
  have hcalls := hm.toolCalls
  by_cases hrole : m.role = "assistant" <;> simp_all [Message.parseToolCalls, freshMessage, fmtMessage, hm.role_eq]

theorem calls_merged (hm : Conversational m) (a : Message) :
    (mergedMessage a m).parseToolCalls = m.parseToolCalls := calls_fresh hm

theorem lastOf_formatMessages (hm : Conversational m) (ms : List Message) :
    (lastOf (formatMessages (ms ++ [m]))).role = m.role ∧
      (lastOf (formatMessages (ms ++ [m]))).parseToolCalls = m.parseToolCalls ∧
      ((lastOf (formatMessages (ms ++ [m]))).isStringContent = true ↔ ∀ l, m.content ≠ .parts l) := by
  rw [formatMessages_concat]
  split_ifs with hmerges
  · obtain ⟨s, t, -, ht, hcontent⟩ := hmerges.string
    rw [lastOf, List.getLast?_concat, Option.getD_some]
    exact ⟨hm.role_eq, calls_merged hm _, by simp [isStringContent_iff, hcontent, ht]⟩
  · rw [lastOf, List.getLast?_concat, Option.getD_some]
    refine ⟨hm.role_eq, calls_fresh hm, ?_⟩
    rcases hm.content with hc | ⟨s, hc⟩ | ⟨l, hc⟩ <;>
      simp [isStringContent_iff, freshMessage, hc, MessageContent.shown]

theorem merges_iff_drops (ha : Conversational a) (hm : Conversational m) (ms : List Message)
    (hcalls : a.parseToolCalls ≠ []) : Merges (lastOf (formatMessages (ms ++ [a]))) m ↔ Drops a m := by
  obtain ⟨hrole, -, hstring⟩ := lastOf_formatMessages ha ms
  have hassistant : a.role = "assistant" := ha.toolCalls fun hnone => hcalls (by simp [Message.parseToolCalls, hnone])
  simp [Merges, Drops, hrole, hstring, hm.role_eq, hassistant, hcalls, eq_comm (a := "assistant")]

def callsIn (ms : List Message) : List ToolCallRequest := ms.flatMap (·.parseToolCalls)

theorem callsIn_concat (ms : List Message) (m : Message) : callsIn (ms ++ [m]) = callsIn ms ++ m.parseToolCalls := by
  simp [callsIn]

/-- One more message adds its calls; those of the message before are lost in one case. -/
theorem callsIn_formatMessages_concat (h : ∀ a ∈ ms ++ [m], Conversational a) :
    (callsIn (formatMessages (ms ++ [m])) = callsIn (formatMessages ms) ++ m.parseToolCalls ∧
      ∀ a ∈ ms.getLast?, ¬ Drops a m) ∨
    ((callsIn (formatMessages (ms ++ [m]))).length < (callsIn (formatMessages ms)).length + m.parseToolCalls.length ∧
      ∃ a ∈ ms.getLast?, Drops a m) := by
  have hm := h m (by simp)
  have hview := flatMap_formatMessages (·.parseToolCalls) ms m
  rw [calls_fresh hm, calls_merged hm] at hview
  rcases eq_nil_or_concat ms with rfl | ⟨l, a, rfl⟩
  · obtain ⟨-, hnew⟩ | ⟨hmerges, -⟩ := hview
    · exact .inl ⟨hnew, by simp⟩
    · exact absurd rfl hmerges.2.1
  rw [concat_eq_append] at h hview ⊢
  have ha := h a (by simp)
  obtain ⟨-, hcalls, -⟩ := lastOf_formatMessages ha l
  rw [List.getLast?_concat]
  by_cases hnone : a.parseToolCalls = []
  · refine .inl ⟨?_, fun b hb hdrops => ?_⟩
    · obtain ⟨-, hnew⟩ | ⟨-, k, hold, hnew⟩ := hview
      · exact hnew
      · rw [hcalls, hnone, append_nil] at hold
        rw [callsIn, hnew, callsIn, hold]
    · cases hb
      exact hdrops.2.2.1 hnone
  · rw [merges_iff_drops ha hm l hnone] at hview
    obtain ⟨hdrops, hnew⟩ | ⟨hdrops, k, hold, hnew⟩ := hview
    · exact .inl ⟨hnew, by simpa using hdrops⟩
    · refine .inr ⟨?_, a, rfl, hdrops⟩
      have hpos := length_pos_of_ne_nil hnone
      rw [callsIn, callsIn, hnew, hold, hcalls]
      simp only [length_append]
      omega

/-- **The first pass keeps the calls unless a message with calls takes up the next one.** -/
theorem callsIn_formatMessages (h : ∀ m ∈ ms, Conversational m) :
    (ms.IsChain (fun a b => ¬ Drops a b) ∧ callsIn (formatMessages ms) = callsIn ms) ∨
      (¬ ms.IsChain (fun a b => ¬ Drops a b) ∧ (callsIn (formatMessages ms)).length < (callsIn ms).length) := by
  induction ms using List.reverseRecOn with
  | nil => exact .inl ⟨.nil, rfl⟩
  | append_singleton ms m ih =>
    have hrec := ih fun a ha => h a (mem_append_left _ ha)
    rw [isChain_append, callsIn_concat]
    obtain ⟨hcalls, hkept⟩ | ⟨hcalls, a, ha, hdrops⟩ := callsIn_formatMessages_concat h
    · rw [hcalls]
      obtain ⟨hchain, heq⟩ | ⟨hchain, hlt⟩ := hrec
      · exact .inl ⟨⟨hchain, .singleton m, by simpa using hkept⟩, by rw [heq]⟩
      · exact .inr ⟨fun hall => hchain hall.1, by simpa using hlt⟩
    · refine .inr ⟨fun hall => hall.2.2 a ha m rfl hdrops, ?_⟩
      rw [length_append]
      obtain ⟨-, heq⟩ | ⟨-, _⟩ := hrec
      · rwa [heq] at hcalls
      · omega

/-! ### Neighbours -/

theorem formatMessages_append_tools (ms ts : List Message) (h : ∀ t ∈ ts, Conversational t ∧ t.role = "tool") :
    formatMessages (ms ++ ts) = formatMessages ms ++ ts.map freshMessage := by
  induction ts using List.reverseRecOn with
  | nil => simp
  | append_singleton ts t ih =>
    obtain ⟨ht, hrole⟩ := h t (by simp)
    rw [← append_assoc, formatMessages_concat, if_neg, ih fun u hu => h u (mem_append_left _ hu)]
    · simp
    · rintro ⟨hsame, hne, -, -⟩
      rw [ht.role_eq, hrole] at hsame
      exact hne hsame

theorem formatMessages_append (ms l : List Message) (h : (lastOf (formatMessages ms)).role = "tool") :
    ∃ Y, formatMessages (ms ++ l) = formatMessages ms ++ Y := by
  induction l using List.reverseRecOn with
  | nil => exact ⟨[], by simp⟩
  | append_singleton l m ih =>
    obtain ⟨Y, hY⟩ := ih
    rw [← append_assoc, formatMessages_concat, hY]
    split_ifs with hmerges
    · rcases eq_nil_or_concat Y with rfl | ⟨Z, b, rfl⟩
      · rw [append_nil] at hmerges
        exact absurd h hmerges.2.1
      · rw [concat_eq_append, ← append_assoc, dropLast_concat, append_assoc]
        exact ⟨_, rfl⟩
    · exact ⟨_, append_assoc _ _ _⟩

end First

/-! ## The second pass -/

variable {α : Type}

def ClaudeMediaMessage.use? : ClaudeMediaMessage α → Option (String × String × α)
  | .toolUse id name input => some (id, name, input)
  | _ => none

def ClaudeMediaMessage.result? : ClaudeMediaMessage α → Option (String × MessageContent)
  | .toolResult id _ content => some (id, content)
  | _ => none

def ClaudeMediaMessage.text? : ClaudeMediaMessage α → Option String
  | .text s => some s
  | _ => none

def usesIn (l : List (ClaudeMessage α)) : List (String × String × α) :=
  l.flatMap fun m => m.content.toBlocks.filterMap (·.use?)

def resultsIn (l : List (ClaudeMessage α)) : List (String × MessageContent) :=
  l.flatMap fun m => m.content.toBlocks.filterMap (·.result?)

def textsIn (l : List (ClaudeMessage α)) : List (String × String) :=
  l.flatMap fun m => (m.content.toBlocks.filterMap (·.text?)).map fun s => (m.role, s)

section Second

variable (unmarshal : String → Option α) (emptyObject : α)
  (resolveBase64Data : String → String → Option (Except String (String × String)))

def claudeMessageOf (f : Message) : ClaudeMessage α where
  role := f.role
  content :=
    if f.isStringContent ∧ f.toolCalls = none then .string f.stringContent
    else .blocks ((textsOf f.parseContent).map .text ++ toolUses unmarshal emptyObject f)

/-- The messages as a message that is not one of the system is begun. -/
def opened (s : ClaudeMessagesState α) (f : Message) : List (ClaudeMessage α) :=
  if s.isFirstMessage ∧ f.role ≠ "user" then s.claudeMessages ++ [placeholderUserMessage] else s.claudeMessages

/-- The second pass on formatted messages of text. -/
def put (s : ClaudeMessagesState α) (f : Message) : ClaudeMessagesState α :=
  if f.role = "system" then { s with systemMessages := s.systemMessages ++ textsOf f.parseContent }
  else if f.role = "tool" then { s with claudeMessages := appendToolResult (opened s f) f, isFirstMessage := false }
  else { s with
    claudeMessages := opened s f ++ [claudeMessageOf unmarshal emptyObject f], isFirstMessage := false }

variable {unmarshal emptyObject resolveBase64Data} {f : Message} {F : List Message} {s : ClaudeMessagesState α}
  {l : List (ClaudeMessage α)}

theorem claudeMediaMessages_texts (texts : List String) :
    claudeMediaMessages resolveBase64Data (texts.map .text) =
      .ok ((textsOf (texts.map .text)).map (text (α := α))) := by
  induction texts with
  | nil => rfl
  | cons t texts ih =>
    rw [map_cons, claudeMediaMessages, ih]
    unfold textsOf
    by_cases ht : t = "" <;> simp [ht, Except.map, MediaContent.text?]

theorem Formatted.parts (h : Formatted f) : ∃ texts : List String, f.parseContent = texts.map .text := by
  unfold Message.parseContent
  rcases h.content with ⟨s, -, hc⟩ | ⟨texts, hc⟩
  · exact ⟨[s], by rw [hc]; rfl⟩
  · exact ⟨texts, by rw [hc]⟩

theorem Formatted.ne_empty (h : Formatted f) {s : String} (hs : f.content = .string s) : s ≠ "" := by
  rcases h.content with ⟨t, _, hc⟩ | ⟨_, hc⟩ <;> simp_all

theorem claudeStep_eq_put (h : Formatted f) (s : ClaudeMessagesState α) :
    claudeStep unmarshal emptyObject resolveBase64Data s f = .ok (put unmarshal emptyObject s f) := by
  unfold claudeStep put
  by_cases hsystem : f.role = "system"
  · rw [if_pos hsystem, if_pos hsystem]
  rw [if_neg hsystem, if_neg hsystem]
  dsimp only
  by_cases htool : f.role = "tool"
  · rw [if_pos htool, if_pos htool]
    rfl
  rw [if_neg htool, if_neg htool]
  unfold claudeMessageOf
  by_cases hstring : f.isStringContent = true ∧ f.toolCalls = none
  · obtain ⟨s, hs⟩ := isStringContent_iff.mp hstring.1
    simp [hstring, Message.stringContent, hs, h.ne_empty hs, opened]
  · obtain ⟨_, htexts⟩ := h.parts
    rw [if_neg hstring, if_neg hstring, htexts, claudeMediaMessages_texts]
    rfl

theorem foldlM_eq_put (h : ∀ f ∈ F, Formatted f) (s : ClaudeMessagesState α) :
    F.foldlM (claudeStep unmarshal emptyObject resolveBase64Data) s = .ok (F.foldl (put unmarshal emptyObject) s) := by
  induction F generalizing s with
  | nil => rfl
  | cons f F ih =>
    rw [foldlM_cons, claudeStep_eq_put (h f mem_cons_self)]
    exact ih (fun g hg => h g (mem_cons_of_mem f hg)) _

/-! ### What a result does -/

theorem appendToolResult_cases (l : List (ClaudeMessage α)) (f : Message) :
    (∃ P u, l = P ++ [u] ∧ u.role = "user" ∧ appendToolResult l f =
      P ++ [{ u with content := .blocks (u.content.toBlocks ++ [.toolResult f.toolCallID "" f.content]) }]) ∨
    ((∀ P u, l = P ++ [u] → u.role ≠ "user") ∧ appendToolResult l f =
      l ++ [{ role := "user", content := .blocks [.toolResult f.toolCallID "" f.content] }]) := by
  rcases eq_nil_or_concat l with rfl | ⟨P, u, rfl⟩
  · exact .inr ⟨fun P u h => absurd h (by simp), rfl⟩
  · rw [concat_eq_append]
    unfold appendToolResult
    rw [List.getLast?_concat, dropLast_concat]
    dsimp only
    split_ifs with hrole
    · exact .inl ⟨P, u, rfl, hrole, rfl⟩
    · refine .inr ⟨fun P' u' h => ?_, rfl⟩
      obtain ⟨-, hu⟩ := append_inj' h rfl
      cases hu
      exact hrole

theorem usesIn_append (l l' : List (ClaudeMessage α)) : usesIn (l ++ l') = usesIn l ++ usesIn l' := flatMap_append

theorem resultsIn_append (l l' : List (ClaudeMessage α)) : resultsIn (l ++ l') = resultsIn l ++ resultsIn l' :=
  flatMap_append

theorem textsIn_append (l l' : List (ClaudeMessage α)) : textsIn (l ++ l') = textsIn l ++ textsIn l' :=
  flatMap_append

theorem views_appendToolResult (l : List (ClaudeMessage α)) (f : Message) :
    usesIn (appendToolResult l f) = usesIn l ∧
      resultsIn (appendToolResult l f) = resultsIn l ++ [(f.toolCallID, f.content)] ∧
      textsIn (appendToolResult l f) = textsIn l := by
  obtain ⟨P, u, rfl, -, heq⟩ | ⟨-, heq⟩ := appendToolResult_cases l f <;> rw [heq] <;>
    simp [usesIn, resultsIn, textsIn, toBlocks, use?, result?,
      text?]

/-! ### What a message does -/

theorem views_placeholder : usesIn [(placeholderUserMessage : ClaudeMessage α)] = [] ∧
    resultsIn [(placeholderUserMessage : ClaudeMessage α)] = [] ∧
    textsIn [(placeholderUserMessage : ClaudeMessage α)] = [("user", "...")] := ⟨rfl, rfl, rfl⟩

theorem views_opened (s : ClaudeMessagesState α) (f : Message) :
    usesIn (opened s f) = usesIn s.claudeMessages ∧ resultsIn (opened s f) = resultsIn s.claudeMessages ∧
      textsIn (opened s f) = textsIn s.claudeMessages ++
        if s.isFirstMessage ∧ f.role ≠ "user" then [("user", "...")] else [] := by
  unfold opened
  obtain ⟨huses, hresults, htexts⟩ := views_placeholder (α := α)
  split_ifs
  · rw [usesIn_append, resultsIn_append, textsIn_append, huses, hresults, htexts]
    simp
  · simp

def usesOf (unmarshal : String → Option α) (emptyObject : α) (f : Message) : List (String × String × α) :=
  f.parseToolCalls.map fun call => (call.id, call.name, inputObject unmarshal emptyObject call.arguments)

theorem views_claudeMessageOf (unmarshal : String → Option α) (emptyObject : α) (h : Formatted f) (hrole : f.role ≠ "tool") :
    usesIn [claudeMessageOf unmarshal emptyObject f] = usesOf unmarshal emptyObject f ∧
      resultsIn [claudeMessageOf unmarshal emptyObject f] = [] ∧
      textsIn [claudeMessageOf unmarshal emptyObject f] = f.texts := by
  simp only [usesIn, resultsIn, textsIn, flatMap_singleton, claudeMessageOf]
  split_ifs with hstring
  · obtain ⟨s, hs⟩ := isStringContent_iff.mp hstring.1
    rw [texts_of_string hrole hs, if_pos (h.ne_empty hs)]
    simp [toBlocks, use?, result?, text?, usesOf,
      Message.parseToolCalls, hstring.2, Message.stringContent, hs]
  · simp [toBlocks, filterMap_map, use?, result?,
      text?, toolUses, usesOf, Message.texts, hrole]

def addedTexts (s : ClaudeMessagesState α) (f : Message) : List (String × String) :=
  if f.role = "system" then []
  else (if s.isFirstMessage ∧ f.role ≠ "user" then [("user", "...")] else []) ++ f.texts

theorem Formatted.usesOf_eq_nil (h : Formatted f) (hrole : f.role ≠ "assistant") :
    usesOf unmarshal emptyObject f = [] := by
  have hnone : f.toolCalls = none := by_contra fun hcalls => hrole (h.toolCalls hcalls)
  simp [usesOf, Message.parseToolCalls, hnone]

theorem Formatted.shown (h : Formatted f) : f.content.shown = f.content := by
  rcases h.content with ⟨s, hs, hc⟩ | ⟨_, hc⟩ <;> simp [hc, MessageContent.shown]
  exact fun h => absurd h hs

theorem views_put (unmarshal : String → Option α) (emptyObject : α) (h : Formatted f) (s : ClaudeMessagesState α) :
    usesIn (put unmarshal emptyObject s f).claudeMessages =
        usesIn s.claudeMessages ++ usesOf unmarshal emptyObject f ∧
      resultsIn (put unmarshal emptyObject s f).claudeMessages = resultsIn s.claudeMessages ++ f.result ∧
      textsIn (put unmarshal emptyObject s f).claudeMessages = textsIn s.claudeMessages ++ addedTexts s f ∧
      (put unmarshal emptyObject s f).systemMessages =
        s.systemMessages ++ if f.role = "system" then textsOf f.parseContent else [] := by
  obtain ⟨huses, hresults, htexts⟩ := views_opened s f
  unfold put addedTexts
  by_cases hsystem : f.role = "system"
  · simp [hsystem, Message.result, h.usesOf_eq_nil (by simp [hsystem])]
  by_cases htool : f.role = "tool"
  · obtain ⟨huses', hresults', htexts'⟩ := views_appendToolResult (opened s f) f
    simp [htool, huses', hresults', htexts', huses, hresults, htexts, Message.result, Message.texts, h.shown,
      h.usesOf_eq_nil (by simp [htool])]
  · obtain ⟨huses', hresults', htexts'⟩ := views_claudeMessageOf unmarshal emptyObject h htool
    simp [hsystem, htool, usesIn_append, resultsIn_append, textsIn_append, huses', hresults', htexts', huses, hresults,
      htexts, Message.result]

/-! ### What the pass does -/

def StartsWithUser (l : List (ClaudeMessage α)) : Prop := (l.map (·.role)).head? = some "user"

theorem StartsWithUser.append {l' : List (ClaudeMessage α)} (h : StartsWithUser l) : StartsWithUser (l ++ l') := by
  unfold StartsWithUser at h ⊢
  rw [map_append, List.head?_append, h]
  rfl

theorem StartsWithUser.appendToolResult (h : StartsWithUser l) (f : Message) :
    StartsWithUser (appendToolResult l f) := by
  obtain ⟨P, u, rfl, -, heq⟩ | ⟨-, heq⟩ := appendToolResult_cases l f
  · rw [heq]
    unfold StartsWithUser at h ⊢
    simpa using h
  · rw [heq]
    exact h.append

structure Passed (unmarshal : String → Option α) (emptyObject : α) (F : List Message) (s : ClaudeMessagesState α) :
    Prop where
  uses : usesIn s.claudeMessages = F.flatMap (usesOf unmarshal emptyObject)
  results : resultsIn s.claudeMessages = F.flatMap (·.result)
  texts : ∃ start, (start = [] ∨ start = [("user", "...")]) ∧
    textsIn s.claudeMessages = start ++ (F.filter fun f => f.role ≠ "system").flatMap (·.texts)
  system : s.systemMessages = (F.filter fun f => f.role = "system").flatMap fun f => textsOf f.parseContent
  fresh : s.isFirstMessage = true → s.claudeMessages = [] ∧ ∀ f ∈ F, f.role = "system"
  begun : s.isFirstMessage = false → StartsWithUser s.claudeMessages

theorem passed_nil : Passed unmarshal emptyObject [] {} :=
  ⟨rfl, rfl, ⟨[], .inl rfl, rfl⟩, rfl, fun _ => ⟨rfl, by simp⟩, fun h => absurd h.symm Bool.false_ne_true⟩

theorem startsWithUser_put (hp : Passed unmarshal emptyObject F s) (hsystem : f.role ≠ "system") :
    StartsWithUser (put unmarshal emptyObject s f).claudeMessages := by
  have hopened : StartsWithUser (opened s f) ∨ (f.role = "user" ∧ opened s f = []) := by
    unfold opened
    cases hfirst : s.isFirstMessage with
    | false => exact .inl (by simpa using hp.begun hfirst)
    | true =>
      obtain ⟨hnil, -⟩ := hp.fresh hfirst
      by_cases hrole : f.role = "user" <;> simp [hrole, hnil, StartsWithUser, placeholderUserMessage]
  by_cases htool : f.role = "tool"
  · simp only [put, if_neg hsystem, if_pos htool]
    exact (hopened.resolve_right (by simp [htool])).appendToolResult f
  · simp only [put, if_neg hsystem, if_neg htool]
    rcases hopened with hopened | ⟨hrole, hnil⟩
    · exact hopened.append
    · simp [hnil, StartsWithUser, claudeMessageOf, hrole]

theorem Passed.put (hp : Passed unmarshal emptyObject F s) (h : Formatted f) :
    Passed unmarshal emptyObject (F ++ [f]) (put unmarshal emptyObject s f) := by
  obtain ⟨huses, hresults, htexts, hsystems⟩ := views_put unmarshal emptyObject h s
  obtain ⟨start, hstart, hold⟩ := hp.texts
  have hnot : ∀ g ∈ F, s.isFirstMessage = true → g.role = "system" := fun g hg hfirst => (hp.fresh hfirst).2 g hg
  refine ⟨by simp [huses, hp.uses], by simp [hresults, hp.results], ?_, ?_, ?_, ?_⟩
  · rw [htexts, hold, filter_append, flatMap_append, addedTexts]
    by_cases hsystem : f.role = "system"
    · exact ⟨start, hstart, by simp [hsystem]⟩
    by_cases hplaceholder : s.isFirstMessage = true ∧ f.role ≠ "user"
    · -- nothing but system messages so far
      have hnone : (F.filter fun f => decide (f.role ≠ "system")) = [] := by
        simpa using fun g hg => hnot g hg hplaceholder.1
      rw [hnone, (hp.fresh hplaceholder.1).1] at hold
      have hempty : start = [] := by simpa [textsIn] using hold.symm
      exact ⟨[("user", "...")], .inr rfl, by rw [hempty, hnone]; simp [hsystem, hplaceholder]⟩
    · exact ⟨start, hstart, by simp [hsystem, hplaceholder]⟩
  · rw [hsystems, hp.system]
    by_cases hsystem : f.role = "system" <;> simp [hsystem]
  · intro hfirst
    by_cases hsystem : f.role = "system"
    · simp only [Requests.put, if_pos hsystem] at hfirst ⊢
      refine ⟨(hp.fresh hfirst).1, fun g hg => ?_⟩
      rcases mem_append.mp hg with hg | hg
      · exact hnot g hg hfirst
      · rwa [mem_singleton.mp hg]
    · by_cases htool : f.role = "tool" <;> simp [Requests.put, hsystem, htool] at hfirst
  · intro hfirst
    by_cases hsystem : f.role = "system"
    · simp only [Requests.put, if_pos hsystem] at hfirst ⊢
      exact hp.begun hfirst
    · exact startsWithUser_put hp hsystem

theorem passed_foldl (unmarshal : String → Option α) (emptyObject : α) (h : ∀ f ∈ F, Formatted f) :
    Passed unmarshal emptyObject F (F.foldl (put unmarshal emptyObject) {}) := by
  induction F using List.reverseRecOn with
  | nil => exact passed_nil
  | append_singleton F f ih =>
    rw [foldl_append]
    exact (ih fun g hg => h g (mem_append_left _ hg)).put (h f (by simp))

/-! ### Where the results go -/

/-- The messages have an assistant message with the user message after it that has some results. -/
def Grouped (P : List (ClaudeMessage α)) (a : ClaudeMessage α) (results : List (String × MessageContent))
    (l : List (ClaudeMessage α)) : Prop :=
  ∃ u Q, l = P ++ a :: u :: Q ∧ u.role = "user" ∧ results <+: resultsIn [u]

variable {P : List (ClaudeMessage α)} {a : ClaudeMessage α} {results : List (String × MessageContent)}

theorem Grouped.append (h : Grouped P a results l) (l' : List (ClaudeMessage α)) : Grouped P a results (l ++ l') := by
  obtain ⟨u, Q, rfl, hrole, hresults⟩ := h
  exact ⟨u, Q ++ l', by simp, hrole, hresults⟩

theorem Grouped.appendToolResult (h : Grouped P a results l) (f : Message) :
    Grouped P a results (appendToolResult l f) := by
  obtain ⟨P', w, hl, -, heq⟩ | ⟨-, heq⟩ := appendToolResult_cases l f
  · obtain ⟨u, Q, rfl, hrole, hresults⟩ := h
    rw [heq]
    rcases eq_nil_or_concat Q with rfl | ⟨Q', b, rfl⟩
    · obtain ⟨rfl, hw⟩ := append_inj' (show (P ++ [a]) ++ [u] = P' ++ [w] by simpa using hl) rfl
      cases hw
      refine ⟨{ w with content := .blocks (w.content.toBlocks ++ [.toolResult f.toolCallID "" f.content]) }, [],
        by simp, hrole, hresults.trans ?_⟩
      simp [resultsIn, toBlocks]
    · obtain ⟨rfl, _⟩ := append_inj' (show (P ++ a :: u :: Q') ++ [b] = P' ++ [w] by simpa using hl) rfl
      refine ⟨u, Q' ++ [{ w with content := .blocks (w.content.toBlocks ++ [.toolResult f.toolCallID "" f.content]) }],
        by simp, hrole, hresults⟩
  · rw [heq]
    exact h.append _

theorem Grouped.put (h : Grouped P a results s.claudeMessages) (f : Message) :
    Grouped P a results (put unmarshal emptyObject s f).claudeMessages := by
  have hopened : Grouped P a results (opened s f) := by
    unfold opened
    split_ifs
    · exact h.append _
    · exact h
  unfold Requests.put
  split_ifs
  · exact h
  · exact hopened.appendToolResult f
  · exact hopened.append _

theorem Grouped.foldl (h : Grouped P a results s.claudeMessages) (F : List Message) :
    Grouped P a results (F.foldl (Requests.put unmarshal emptyObject) s).claudeMessages := by
  induction F generalizing s with
  | nil => exact h
  | cons f F ih => exact ih (h.put f)

theorem put_tool (hrole : f.role = "tool") (hfirst : s.isFirstMessage = false) : put unmarshal emptyObject s f =
    { s with claudeMessages := appendToolResult s.claudeMessages f, isFirstMessage := false } := by
  simp [put, opened, hrole, hfirst]

theorem Formatted.result (h : Formatted f) (hrole : f.role = "tool") : f.result = [(f.toolCallID, f.content)] := by
  simp [Message.result, hrole, h.shown]

theorem appendToolResult_begins (ha : a.role = "assistant") (f : Message) : appendToolResult (P ++ [a]) f =
    P ++ [a, { role := "user", content := .blocks [.toolResult f.toolCallID "" f.content] }] := by
  obtain ⟨_, w, hw, hrole, -⟩ | ⟨-, heq⟩ := appendToolResult_cases (P ++ [a]) f
  · obtain ⟨-, hlast⟩ := append_inj' hw rfl
    cases hlast
    rw [ha] at hrole
    exact absurd hrole (by decide)
  · rw [heq, append_assoc]
    rfl

theorem appendToolResult_extends {u : ClaudeMessage α} (hu : u.role = "user") (f : Message) :
    appendToolResult (P ++ [a, u]) f =
      P ++ [a, { u with content := .blocks (u.content.toBlocks ++ [.toolResult f.toolCallID "" f.content]) }] := by
  obtain ⟨P', w, hw, -, heq⟩ | ⟨hno, -⟩ := appendToolResult_cases (P ++ [a, u]) f
  · obtain ⟨rfl, hlast⟩ := append_inj' (show (P ++ [a]) ++ [u] = P' ++ [w] by simpa using hw) rfl
    cases hlast
    rw [heq, append_assoc]
    rfl
  · exact absurd hu (hno (P ++ [a]) u (by simp))

/-- After each result that follows an assistant message, the user message with all of them is the last one. -/
theorem foldl_tools (unmarshal : String → Option α) (emptyObject : α) {T : List Message}
    (hl : s.claudeMessages = P ++ [a]) (ha : a.role = "assistant")
    (hfirst : s.isFirstMessage = false) (hne : T ≠ []) (hT : ∀ t ∈ T, Formatted t ∧ t.role = "tool") :
    (T.foldl (put unmarshal emptyObject) s).isFirstMessage = false ∧
      ∃ u, (T.foldl (put unmarshal emptyObject) s).claudeMessages = P ++ [a, u] ∧ u.role = "user" ∧
        resultsIn [u] = T.flatMap (·.result) := by
  induction T using List.reverseRecOn with
  | nil => exact absurd rfl hne
  | append_singleton T t ih =>
    obtain ⟨ht, hrole⟩ := hT t (by simp)
    rw [foldl_append, foldl_cons, foldl_nil, flatMap_append, flatMap_singleton,
      ht.result hrole]
    by_cases hnil : T = []
    · subst hnil
      rw [foldl_nil, put_tool hrole hfirst, hl, appendToolResult_begins ha]
      exact ⟨rfl, _, rfl, rfl, rfl⟩
    · obtain ⟨hfirst', u, hu, huser, hresults⟩ := ih hnil fun r hr => hT r (mem_append_left _ hr)
      rw [put_tool hrole hfirst', hu, appendToolResult_extends huser]
      refine ⟨rfl, _, rfl, huser, ?_⟩
      rw [← hresults]
      simp [resultsIn, toBlocks, result?]

theorem grouped_formatted (unmarshal : String → Option α) (emptyObject : α) {X T Y : List Message}
    (h : ∀ g ∈ X ++ f :: (T ++ Y), Formatted g)
    (hf : f.role = "assistant") (hne : T ≠ []) (hT : ∀ t ∈ T, t.role = "tool") :
    ∃ P, usesIn P = X.flatMap (usesOf unmarshal emptyObject) ∧
      Grouped P (claudeMessageOf unmarshal emptyObject f) (T.flatMap (·.result))
        ((X ++ f :: (T ++ Y)).foldl (put unmarshal emptyObject) {}).claudeMessages := by
  have hX := passed_foldl unmarshal emptyObject fun g hg => h g (mem_append_left _ hg)
  generalize hs : X.foldl (put unmarshal emptyObject) {} = s at hX
  have hput : put unmarshal emptyObject s f = { s with
      claudeMessages := opened s f ++ [claudeMessageOf unmarshal emptyObject f], isFirstMessage := false } := by
    unfold put
    rw [if_neg (by rw [hf]; decide), if_neg (by rw [hf]; decide)]
  refine ⟨opened s f, (views_opened s f).1.trans hX.uses, ?_⟩
  rw [foldl_append, hs, foldl_cons, foldl_append, hput]
  have htools : ∀ t ∈ T, Formatted t ∧ t.role = "tool" := fun t ht => ⟨h t (by simp [ht]), hT t ht⟩
  obtain ⟨-, u, hu, huser, hresults⟩ := foldl_tools unmarshal emptyObject
    (s := { s with claudeMessages := opened s f ++ [claudeMessageOf unmarshal emptyObject f], isFirstMessage := false })
    rfl hf rfl hne htools
  exact Grouped.foldl ⟨u, [], hu, huser, by rw [hresults]⟩ Y

end Second

/-! ## Both passes -/

/-- The conversation is kept: the calls, the results, the texts, the first role, and results after their calls. -/
structure Kept (unmarshal : String → Option α) (ms : List Message) (out : ClaudeConversation α) : Prop where
  uses : (usesIn out.messages).map (fun u => (u.1, u.2.1, some u.2.2)) =
    (callsIn ms).map fun c => (c.id, c.name, unmarshal c.arguments)
  results : resultsIn out.messages = ms.flatMap (·.result)
  texts : Rendered ((ms.flatMap (·.texts)).filter fun x => x.1 ≠ "system") (textsIn out.messages)
  system : Rendered ((ms.flatMap (·.texts)).filter fun x => x.1 = "system") (out.system.map fun s => ("system", s))
  first : ∀ m ∈ out.messages.head?, m.role = "user"
  grouped : ∀ A a ts B, ms = A ++ a :: (ts ++ B) → a.role = "assistant" → a.parseToolCalls ≠ [] → ts ≠ [] →
    (∀ t ∈ ts, t.role = "tool") → ∃ P a' u Q, out.messages = P ++ a' :: u :: Q ∧
      (usesIn P).map (fun u => (u.1, u.2.1, some u.2.2)) =
        (callsIn A).map (fun c => (c.id, c.name, unmarshal c.arguments)) ∧
      (usesIn [a']).map (fun u => (u.1, u.2.1, some u.2.2)) =
        a.parseToolCalls.map (fun c => (c.id, c.name, unmarshal c.arguments)) ∧
      u.role = "user" ∧ ts.flatMap (·.result) <+: resultsIn [u]

def passed (unmarshal : String → Option α) (emptyObject : α) (ms : List Message) : ClaudeMessagesState α :=
  (formatMessages ms).foldl (put unmarshal emptyObject) {}

section Both

variable {unmarshal : String → Option α} {emptyObject : α}
  {resolveBase64Data : String → String → Option (Except String (String × String))} {ms F : List Message}
  {out : ClaudeConversation α}

theorem usesOf_parsed (unmarshal : String → Option α) (emptyObject : α)
    (h : ∀ c ∈ callsIn F, c.arguments ≠ "" ∧ (unmarshal c.arguments).isSome = true) :
    (F.flatMap (usesOf unmarshal emptyObject)).map (fun u => (u.1, u.2.1, some u.2.2)) =
      (callsIn F).map fun c => (c.id, c.name, unmarshal c.arguments) := by
  have hflat : F.flatMap (usesOf unmarshal emptyObject) = (callsIn F).map fun call =>
      (call.id, call.name, inputObject unmarshal emptyObject call.arguments) := by
    unfold callsIn
    rw [map_flatMap]
    rfl
  rw [hflat, map_map]
  refine map_congr_left fun c hc => ?_
  obtain ⟨hne, hsome⟩ := h c hc
  obtain ⟨o, ho⟩ := Option.isSome_iff_exists.mp hsome
  simp [inputObject, hne, ho]

theorem filter_texts (F : List Message) (p : String → Bool) :
    ((F.flatMap (·.texts)).filter fun x => p x.1) = (F.filter fun f => p f.role).flatMap (·.texts) := by
  induction F with
  | nil => rfl
  | cons f F ih =>
    rw [flatMap_cons, filter_append, ih, filter_cons]
    have hall : (f.texts.filter fun x => p x.1) = if p f.role then f.texts else [] := by
      unfold Message.texts
      split_ifs <;> simp_all [filter_map, Function.comp_def]
    rw [hall]
    split_ifs <;> simp

theorem startsWithUser_head {l : List (ClaudeMessage α)} (h : l = [] ∨ StartsWithUser l) :
    ∀ m ∈ l.head?, m.role = "user" := by
  intro m hm
  rcases h with rfl | h
  · cases hm
  · unfold StartsWithUser at h
    rw [List.head?_map, Option.mem_def.mp hm] at h
    exact Option.some_inj.mp h

section Conversation

variable (h : ∀ m ∈ ms, Conversational m)
  (hok : openAIChatRequestToClaudeMessages unmarshal emptyObject resolveBase64Data ms = .ok out)

include h in
theorem passed_formatMessages (unmarshal : String → Option α) (emptyObject : α) :
    Passed unmarshal emptyObject (formatMessages ms) (passed unmarshal emptyObject ms) :=
  passed_foldl unmarshal emptyObject (formatted_formatMessages h)

include h hok

theorem conversation_eq :
    out.system = (passed unmarshal emptyObject ms).systemMessages ∧
      (out.messages = (passed unmarshal emptyObject ms).claudeMessages ∨
        (passed unmarshal emptyObject ms).claudeMessages = [] ∧
          out.messages = [placeholderUserMessage]) := by
  unfold openAIChatRequestToClaudeMessages at hok
  rw [foldlM_eq_put (formatted_formatMessages h)] at hok
  cases hok
  refine ⟨rfl, ?_⟩
  dsimp only
  split_ifs with hempty
  · exact .inr ⟨hempty.1, rfl⟩
  · exact .inl rfl

theorem usesIn_conversation :
    usesIn out.messages = (formatMessages ms).flatMap (usesOf unmarshal emptyObject) := by
  have hpassed := passed_formatMessages h unmarshal emptyObject
  obtain ⟨-, hmessages | ⟨hnil, hmessages⟩⟩ := conversation_eq h hok
  · rw [hmessages, hpassed.uses]
  · rw [hmessages, ← hpassed.uses, hnil]
    rfl

theorem results_conversation :
    resultsIn out.messages = ms.flatMap (·.result) := by
  have hpassed := passed_formatMessages h unmarshal emptyObject
  rw [← results_formatMessages h, ← hpassed.results]
  obtain ⟨-, hmessages | ⟨hnil, hmessages⟩⟩ := conversation_eq h hok
  · rw [hmessages]
  · rw [hmessages, hnil]
    rfl

theorem texts_conversation :
    Rendered ((ms.flatMap (·.texts)).filter fun x => x.1 ≠ "system") (textsIn out.messages) := by
  have hpassed := passed_formatMessages h unmarshal emptyObject
  have hrendered := (rendered_formatMessages h).filter fun role => role ≠ "system"
  rw [filter_texts (formatMessages ms) fun role => role ≠ "system"] at hrendered
  obtain ⟨_, hstart, htexts⟩ := hpassed.texts
  have hfirst : Rendered ((ms.flatMap (·.texts)).filter fun x => x.1 ≠ "system")
      (textsIn (passed unmarshal emptyObject ms).claudeMessages) := by
    rw [htexts]
    rcases hstart with rfl | rfl
    · exact hrendered
    · exact hrendered.placeholder "user"
  obtain ⟨-, hmessages | ⟨hnil, hmessages⟩⟩ := conversation_eq h hok
  · rwa [hmessages]
  · rw [hnil] at hfirst
    rw [hmessages]
    exact hfirst.dots "user"

theorem system_conversation :
    Rendered ((ms.flatMap (·.texts)).filter fun x => x.1 = "system") (out.system.map fun s => ("system", s)) := by
  have hpassed := passed_formatMessages h unmarshal emptyObject
  have hrendered := (rendered_formatMessages h).filter fun role => role = "system"
  rw [filter_texts (formatMessages ms) fun role => role = "system"] at hrendered
  have heq : out.system.map (fun s => ("system", s)) =
      ((formatMessages ms).filter fun f => f.role = "system").flatMap (·.texts) := by
    rw [(conversation_eq h hok).1, hpassed.system, map_flatMap]
    refine flatMap_congr fun f hf => ?_
    have hrole : f.role = "system" := by simpa using (mem_filter.mp hf).2
    unfold Message.texts
    rw [if_neg (by rw [hrole]; decide), hrole]
  rw [heq]
  exact hrendered

theorem first_conversation :
    ∀ m ∈ out.messages.head?, m.role = "user" := by
  have hpassed := passed_formatMessages h unmarshal emptyObject
  obtain ⟨-, hmessages | ⟨-, hmessages⟩⟩ := conversation_eq h hok
  · rw [hmessages]
    refine startsWithUser_head ?_
    cases hfirst : (passed unmarshal emptyObject ms).isFirstMessage with
    | true => exact .inl (hpassed.fresh hfirst).1
    | false => exact .inr (hpassed.begun hfirst)
  · rw [hmessages]
    exact startsWithUser_head (.inr rfl)

end Conversation

theorem formatMessages_around {A ts B : List Message} {a : Message} (h : ∀ m ∈ A ++ a :: (ts ++ B), Conversational m)
    (hchain : (A ++ a :: (ts ++ B)).IsChain fun a b => ¬ Drops a b) (hne : ts ≠ []) (hts : ∀ t ∈ ts, t.role = "tool") :
    ∃ X f Y, formatMessages (A ++ a :: (ts ++ B)) = X ++ f :: (ts.map freshMessage ++ Y) ∧ callsIn X = callsIn A ∧
      f.role = a.role ∧ f.parseToolCalls = a.parseToolCalls := by
  have ha := h a (by simp)
  have htools : ∀ t ∈ ts, Conversational t ∧ t.role = "tool" := fun t ht => ⟨h t (by simp [ht]), hts t ht⟩
  obtain ⟨X, hX⟩ : ∃ X, formatMessages (A ++ [a]) = X ++ [lastOf (formatMessages (A ++ [a]))] := by
    rw [formatMessages_concat]
    split_ifs <;> simp [lastOf]
  obtain ⟨hrole, hcalls, -⟩ := lastOf_formatMessages ha A
  have hafter := formatMessages_append_tools (A ++ [a]) ts htools
  have hlast : (lastOf (formatMessages ((A ++ [a]) ++ ts))).role = "tool" := by
    obtain ⟨_, t, rfl⟩ := (eq_nil_or_concat ts).resolve_left hne
    rw [hafter, concat_eq_append, map_append, ← append_assoc]
    obtain ⟨ht, hrole⟩ := htools t (by simp)
    have hfresh : (freshMessage t).role = "tool" := ht.role_eq.trans hrole
    simpa [lastOf] using hfresh
  obtain ⟨Y, hY⟩ := formatMessages_append ((A ++ [a]) ++ ts) B hlast
  refine ⟨X, lastOf (formatMessages (A ++ [a])), Y, ?_, ?_, hrole, hcalls⟩
  · rw [hafter, hX] at hY
    simpa using hY
  · -- no calls are lost up to the assistant message
    have hprefix : (A ++ [a]).IsChain fun a b => ¬ Drops a b := by
      rw [append_cons, isChain_append] at hchain
      exact hchain.1
    have hconversational : ∀ m ∈ A ++ [a], Conversational m := by
      intro m hm
      refine h m ?_
      rw [append_cons]
      exact mem_append_left _ hm
    obtain ⟨-, heq⟩ | ⟨hno, -⟩ := callsIn_formatMessages hconversational
    · rw [hX, callsIn_concat, callsIn_concat, hcalls] at heq
      exact append_cancel_right heq
    · exact absurd hprefix hno

theorem grouped_conversation {A ts B : List Message} {a : Message} (h : ∀ m ∈ A ++ a :: (ts ++ B), Conversational m)
    (hargs : ∀ c ∈ callsIn (A ++ a :: (ts ++ B)), c.arguments ≠ "" ∧ (unmarshal c.arguments).isSome = true)
    (hchain : (A ++ a :: (ts ++ B)).IsChain fun a b => ¬ Drops a b)
    (hok : openAIChatRequestToClaudeMessages unmarshal emptyObject resolveBase64Data (A ++ a :: (ts ++ B)) = .ok out)
    (ha : a.role = "assistant") (hne : ts ≠ []) (hts : ∀ t ∈ ts, t.role = "tool") :
    ∃ P a' u Q, out.messages = P ++ a' :: u :: Q ∧
      (usesIn P).map (fun u => (u.1, u.2.1, some u.2.2)) =
        (callsIn A).map (fun c => (c.id, c.name, unmarshal c.arguments)) ∧
      (usesIn [a']).map (fun u => (u.1, u.2.1, some u.2.2)) =
        a.parseToolCalls.map (fun c => (c.id, c.name, unmarshal c.arguments)) ∧
      u.role = "user" ∧ ts.flatMap (·.result) <+: resultsIn [u] := by
  obtain ⟨X, f, Y, hF, hX, hrole, hcalls⟩ := formatMessages_around h hchain hne hts
  have hformatted := formatted_formatMessages h
  rw [hF] at hformatted
  have hf : f.role = "assistant" := hrole.trans ha
  have hfresh : ∀ t ∈ ts.map freshMessage, t.role = "tool" := by
    intro t ht
    obtain ⟨u, hu, rfl⟩ := mem_map.mp ht
    exact (h u (by simp [hu])).role_eq.trans (hts u hu)
  obtain ⟨P, hP, u, Q, hcm, huser, hresults⟩ := grouped_formatted unmarshal emptyObject
    hformatted hf (by simpa using hne) hfresh
  have hmessages : out.messages = P ++ claudeMessageOf unmarshal emptyObject f :: u :: Q := by
    obtain ⟨-, hmessages | ⟨hnil, -⟩⟩ := conversation_eq h hok
    · rw [hmessages, passed, hF, hcm]
    · rw [passed, hF, hcm] at hnil
      exact absurd hnil (by simp)
  have hsplit : callsIn (A ++ a :: (ts ++ B)) = callsIn A ++ (a.parseToolCalls ++ callsIn (ts ++ B)) := by
    simp [callsIn]
  refine ⟨P, _, u, Q, hmessages, ?_, ?_, huser, ?_⟩
  · rw [hP, usesOf_parsed unmarshal emptyObject, hX]
    intro c hc
    rw [hX] at hc
    exact hargs c (by rw [hsplit]; exact mem_append_left _ hc)
  · have hview := (views_claudeMessageOf unmarshal emptyObject (hformatted f (by simp)) (by rw [hf]; decide)).1
    have hown : callsIn [f] = a.parseToolCalls := by simpa [callsIn] using hcalls
    have hparsed := usesOf_parsed unmarshal emptyObject (F := [f]) fun c hc => hargs c (by
      rw [hown] at hc
      rw [hsplit]
      exact mem_append_right _ (mem_append_left _ hc))
    rw [hview, ← hown, ← hparsed, flatMap_singleton]
  · rw [flatMap_map] at hresults
    refine (flatMap_congr fun t ht => ?_) ▸ hresults
    exact result_fresh (h t (by simp [ht]))

/-- **A Chat conversation is kept in a Claude request if and only if no calls are lost.** -/
theorem chat_request_to_claude_request (h : ∀ m ∈ ms, Conversational m)
    (hargs : ∀ c ∈ callsIn ms, c.arguments ≠ "" ∧ (unmarshal c.arguments).isSome = true)
    (hok : openAIChatRequestToClaudeMessages unmarshal emptyObject resolveBase64Data ms = .ok out) :
    Kept unmarshal ms out ↔ ms.IsChain fun a b => ¬ Drops a b := by
  have huses := usesIn_conversation h hok
  constructor
  · intro hkept
    obtain ⟨hchain, -⟩ | ⟨-, _⟩ := callsIn_formatMessages h
    · exact hchain
    · -- fewer calls come out than have been sent
      have hlength := congrArg List.length hkept.uses
      rw [huses, length_map, length_map] at hlength
      have hflat : ((formatMessages ms).flatMap (usesOf unmarshal emptyObject)).length =
          (callsIn (formatMessages ms)).length := by
        simp [callsIn, usesOf, length_flatMap]
      omega
  · intro hchain
    have hcalls : callsIn (formatMessages ms) = callsIn ms := by
      obtain ⟨-, heq⟩ | ⟨hno, -⟩ := callsIn_formatMessages h
      · exact heq
      · exact absurd hchain hno
    refine ⟨?_, results_conversation h hok, texts_conversation h hok, system_conversation h hok,
      first_conversation h hok, fun A a ts B hms ha _ hne hts => ?_⟩
    · rw [huses, usesOf_parsed unmarshal emptyObject (by rwa [hcalls]), hcalls]
    · subst hms
      exact grouped_conversation h hargs hchain hok ha hne hts

def decodeEmpty (s : String) : Option (List (String × String)) := if s = "\x7b\x7d" then some [] else none

/-- A question, a call, its result, and an answer. -/
def callConversation : List Message :=
  [{ role := "system", content := .string "be brief" }, { role := "user", content := .string "what time is it" },
    { role := "assistant", toolCalls := some [{ id := "c1", name := "clock", arguments := "\x7b\x7d" }] },
    { role := "tool", toolCallID := "c1", content := .string "noon" },
    { role := "assistant", content := .parts [.text "it is noon"] }]

theorem conversational_of_string {role t : String} (h : role = "system" ∨ role = "user") :
    Conversational { role := role, content := .string t } := by
  refine ⟨h.imp_right .inl, .inr (.inl ⟨t, rfl⟩), fun hcalls => absurd rfl hcalls, fun htool => ?_⟩
  rcases h with rfl | rfl <;> simp at htool

theorem conversational_callConversation : ∀ m ∈ callConversation, Conversational m := by
  intro m hm
  simp only [callConversation, mem_cons, not_mem_nil, or_false] at hm
  rcases hm with rfl | rfl | rfl | rfl | rfl
  · exact conversational_of_string (.inl rfl)
  · exact conversational_of_string (.inr rfl)
  · exact ⟨.inr (.inr (.inl rfl)), .inl rfl, fun _ => rfl, fun h => absurd h (by decide)⟩
  · exact ⟨.inr (.inr (.inr rfl)), .inr (.inl ⟨_, rfl⟩), fun h => absurd rfl h, fun _ => by decide⟩
  · exact ⟨.inr (.inr (.inl rfl)), .inr (.inr ⟨["it is noon"], rfl⟩), fun h => absurd rfl h, fun h => absurd h (by decide)⟩

theorem chat_request_to_claude_request_of_call : ∃ out,
    openAIChatRequestToClaudeMessages decodeEmpty [] (fun _ _ => none) callConversation = .ok out ∧
      Kept decodeEmpty callConversation out := by
  have hargs : ∀ c ∈ callsIn callConversation, c.arguments ≠ "" ∧ (decodeEmpty c.arguments).isSome = true := by decide
  have hok : (openAIChatRequestToClaudeMessages decodeEmpty [] (fun _ _ => none) callConversation).isOk = true := by
    decide
  have hchain : callConversation.IsChain fun a b => ¬ Drops a b := by
    refine .cons_cons (fun h => ?_) (.cons_cons (fun h => ?_) (.cons_cons (fun h => ?_) (.cons_cons (fun h => ?_)
      (.singleton _))))
    · exact absurd h.1 (by decide)
    · exact absurd h.1 (by decide)
    · exact absurd h.2.1 (by decide)
    · exact absurd h.1 (by decide)
  cases hrun : openAIChatRequestToClaudeMessages decodeEmpty [] (fun _ _ => none) callConversation with
  | error =>
    rw [hrun] at hok
    cases hok
  | ok out => exact ⟨out, rfl, (chat_request_to_claude_request conversational_callConversation hargs hrun).mpr hchain⟩

/-- An assistant message with a call takes up the next one: the call is lost. -/
theorem call_lost_in_merge : ∃ out,
    openAIChatRequestToClaudeMessages decodeEmpty [] (fun _ _ => none)
      [{ role := "user", content := .string "what time is it" },
        { role := "assistant", content := .string "let me see"
          toolCalls := some [{ id := "c1", name := "clock", arguments := "\x7b\x7d" }] },
        { role := "assistant", content := .string "one moment" }] = .ok out ∧
      usesIn out.messages = [] ∧
      ¬ Kept decodeEmpty
        [{ role := "user", content := .string "what time is it" },
          { role := "assistant", content := .string "let me see"
            toolCalls := some [{ id := "c1", name := "clock", arguments := "\x7b\x7d" }] },
          { role := "assistant", content := .string "one moment" }] out := by
  refine ⟨{ system := [], messages := [{ role := "user", content := .string "what time is it" },
    { role := "assistant", content := .string "let me see one moment" }] }, by decide, by decide, fun h => ?_⟩
  have hlength := congrArg List.length h.uses
  exact absurd hlength (by decide)

end Both

end Desktop2Stereo.Requests
