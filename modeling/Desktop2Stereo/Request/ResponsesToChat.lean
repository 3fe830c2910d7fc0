import Desktop2Stereo.Lib.Checked
import Desktop2Stereo.Lib.Monitors
import Desktop2Stereo.Model.ResponsesRequests

/-!
# Responses items as Chat messages

The items are put one by one behind the messages made so far; a call goes to the last message if that is an assistant
message. Each thing that is kept is a list read off the messages, and one item adds to it what is read off the item.

* `KeptFromResponses`, **`responses_request_to_chat_request`**: when an input is kept.
-/

namespace Desktop2Stereo.Requests

open GoText Checked Monitors List ResponsesInputItem

/-! ## Items -/

inductive ItemKind
  | message
  | functionCall
  | customToolCall
  | functionCallOutput
  | customToolCallOutput
  | reasoning
  deriving DecidableEq

namespace ResponsesInputItem

def kind? (item : ResponsesInputItem) : Option ItemKind :=
  match trimSpace item.type with
  | "" | "message" => some .message
  | "function_call" => some .functionCall
  | "custom_tool_call" => some .customToolCall
  | "function_call_output" => some .functionCallOutput
  | "custom_tool_call_output" => some .customToolCallOutput
  | "reasoning" => some .reasoning
  | _ => none

def calls (item : ResponsesInputItem) : List ToolCallRequest :=
  match item.kind? with
  | some .functionCall =>
    [{ id := item.callID, type := "function", name := trimSpace item.name, arguments := item.arguments.toText }]
  | some .customToolCall =>
    [{ id := item.callID, type := "custom", name := trimSpace item.name, arguments := item.input.toText }]
  | _ => []

def results (item : ResponsesInputItem) : List (String × String) :=
  match item.kind? with
  | some .functionCallOutput | some .customToolCallOutput => [(item.callID, item.output.toText)]
  | _ => []

end ResponsesInputItem

def ContentPart.texts : ContentPart → List String
  | .object type text _ =>
    if trimSpace type = "input_text" ∨ trimSpace type = "output_text" ∨ trimSpace type = "text" then [text] else []
  | .other _ => []

def ItemContent.text : ItemContent → String
  | .string s => s
  | .parts l => String.join (l.flatMap (·.texts))
  | _ => ""

namespace ResponsesInputItem

def said (item : ResponsesInputItem) : List (String × String) :=
  if item.kind? = some .message then [(item.chatRole, item.content.text)] else []

/-- A message item has a role of its own kind, and call ids are not empty and have no blanks around them. -/
structure Proper (item : ResponsesInputItem) : Prop where
  kind : item.kind?.isSome = true
  role : item.kind? = some .message → item.chatRole ∈ ["system", "developer", "user", "assistant"]
  callID : item.kind? ≠ some .message → item.kind? ≠ some .reasoning →
    item.callID ≠ "" ∧ trimSpace item.callID = item.callID

end ResponsesInputItem

/-! ## Messages -/

namespace Message

def called (m : Message) : List ToolCallRequest := if m.role = "assistant" then m.parseToolCalls else []

def toolResults (m : Message) : List (String × String) :=
  if m.role = "tool" then [(m.toolCallID, m.stringContent)] else []

def said (m : Message) : List (String × String) :=
  if m.role = "tool" ∨ m.content = .absent then [] else [(m.role, m.stringContent)]

def asked (m : Message) : List String := if m.role = "user" then [m.stringContent] else []

end Message

/-- A result is preceded by its call, with only calls, outputs and reasoning between them. -/
def ItemAnswers (before : List ResponsesInputItem) (item : ResponsesInputItem) : Prop :=
  item.results ≠ [] → Monitors.Since (fun c => item.callID ∈ c.calls.map (·.id)) (fun c => c.kind? ≠ some .message) before

/-- A tool message is preceded by its call, with only assistant and tool messages between them. -/
def MessageAnswers (before : List Message) (m : Message) : Prop :=
  m.role = "tool" →
    Monitors.Since (fun a => m.toolCallID ∈ a.called.map (·.id)) (fun a => a.role = "assistant" ∨ a.role = "tool") before

structure KeptFromResponses (instructions : RawValue) (items : List ResponsesInputItem) (messages : List Message) :
    Prop where
  calls : messages.flatMap (·.called) = items.flatMap (·.calls)
  results : messages.flatMap (·.toolResults) = items.flatMap (·.results)
  said : messages.flatMap (·.said) = (instructionsMessages instructions).flatMap (·.said) ++ items.flatMap (·.said)
  asked : messages.flatMap (·.asked) =
    items.flatMap fun item => (item.said.filter fun x => x.1 = "user").map (·.2)
  answered : Vetted ItemAnswers items → Vetted MessageAnswers messages

/-! ## One item -/

section Steps

variable {payload : String → String → String} {ms ms' : List Message} {item : ResponsesInputItem}
  {c : ToolCallRequest} {γ : Type}

theorem put_call (ms : List Message) (c : ToolCallRequest) :
    (∃ l a, ms = l ++ [a] ∧ a.role = "assistant" ∧
      appendToolCallToLastAssistant ms c = l ++ [{ a with toolCalls := some (a.parseToolCalls ++ [c]) }]) ∨
    appendToolCallToLastAssistant ms c = ms ++ [{ role := "assistant", toolCalls := some [c] }] := by
  rcases eq_nil_or_concat ms with rfl | ⟨l, a, rfl⟩
  · exact .inr rfl
  · rw [concat_eq_append]
    unfold appendToolCallToLastAssistant
    rw [List.getLast?_append_of_ne_nil l (by simp), dropLast_append_of_ne_nil (by simp)]
    by_cases ha : a.role = "assistant"
    · exact .inl ⟨l, a, rfl, ha, by simp [ha]⟩
    · exact .inr (by simp [ha])

theorem flatMap_put_call (f : Message → List γ) (x : List γ)
    (hnew : f { role := "assistant", toolCalls := some [c] } = x)
    (hlast : ∀ a : Message, a.role = "assistant" →
      f { a with toolCalls := some (a.parseToolCalls ++ [c]) } = f a ++ x) :
    (appendToolCallToLastAssistant ms c).flatMap f = ms.flatMap f ++ x := by
  rcases put_call ms c with ⟨l, a, rfl, ha, h⟩ | h
  · rw [h, flatMap_append, flatMap_append]
    simp [hlast a ha]
  · rw [h, flatMap_append]
    simp [hnew]

section Item

variable (h : responsesInputItemToChatMessages payload ms item = .ok ms') (hp : item.Proper)
include h hp

theorem item_step :
    (∃ c, item.calls = [c] ∧ item.results = [] ∧ item.said = [] ∧ item.kind? ≠ some .reasoning ∧
      item.kind? ≠ some .customToolCallOutput ∧ ms' = appendToolCallToLastAssistant ms c) ∨
    (item.kind? = some .functionCallOutput ∧
      ms' = ms ++ [{ role := "tool", toolCallID := item.callID, content := .string item.output.toText }]) ∨
    ((item.kind? = some .message ∨ item.kind? = some .customToolCallOutput ∨ item.kind? = some .reasoning) ∧
      ms' = ms ++ [{
        role := item.chatRole, content := responsesInputContentToChatContent payload item.content }]) := by
  have hkind := hp.kind
  have hid := hp.callID
  unfold responsesInputItemToChatMessages at h
  unfold calls results said
  unfold kind? at hkind hid ⊢
  split at h
  · next ht =>
    simp only [ht] at hid ⊢
    obtain ⟨hne, htrim⟩ := hid (by simp) (by simp)
    unfold responsesFunctionCallItemToChatToolCall responsesCallID at h
    split_ifs at h with hname
    · cases h
    · simp_all [Except.map]
    · simp_all
  · next ht =>
    simp only [ht] at hid ⊢
    obtain ⟨hne, htrim⟩ := hid (by simp) (by simp)
    simp_all [responsesCustomToolCallItemToChatToolCall, responsesCallID]
  · next ht =>
    simp only [ht] at hid ⊢
    obtain ⟨_, _⟩ := hid (by simp) (by simp)
    simp_all
  · next h1 h2 h3 =>
    cases h
    refine .inr (.inr ⟨?_, rfl⟩)
    split at hkind <;> simp_all

end Item

/-! ## Contents -/

theorem texts_chatPart (p : ContentPart) : (chatPart payload p).text?.toList = p.texts := by
  cases p with
  | other => rfl
  | object type text =>
    simp only [chatPart, ContentPart.texts]
    split <;> simp_all [MediaContent.text?]

theorem stringContent_parts (role : String) (l : List ContentPart) :
    Message.stringContent { role := role, content := responsesContentPartsToChatContent payload l } =
      String.join (l.flatMap (·.texts)) := by
  have htexts : (l.map (chatPart payload)).filterMap (·.text?) = l.flatMap (·.texts) := by
    induction l with
    | nil => rfl
    | cons p l ih =>
      rw [map_cons, flatMap_cons, ← ih, ← texts_chatPart p]
      cases h : (chatPart payload p).text? <;> simp [h]
  unfold responsesContentPartsToChatContent
  rw [← htexts]
  by_cases hall : (l.map (chatPart payload)).all (·.text?.isSome) = true
  · rw [if_pos hall]
    rfl
  · rw [if_neg hall]
    rfl

theorem stringContent_item (role : String) (content : ItemContent) :
    Message.stringContent { role := role, content := responsesInputContentToChatContent payload content } =
      content.text := by
  cases content with
  | parts l => exact stringContent_parts role l
  | _ => rfl

theorem content_ne_absent (content : ItemContent) : responsesInputContentToChatContent payload content ≠ .absent := by
  cases content with
  | parts l =>
    unfold responsesInputContentToChatContent responsesContentPartsToChatContent
    by_cases hall : (l.map (chatPart payload)).all (·.text?.isSome) = true <;> simp [hall]
  | _ => simp [responsesInputContentToChatContent]

/-! ## Lists read off the messages -/

/-- Items of the kinds that have a case of their own, and messages. -/
def Converted (item : ResponsesInputItem) : Prop :=
  item.kind? ≠ some .customToolCallOutput ∧ item.kind? ≠ some .reasoning

section Item

variable (h : responsesInputItemToChatMessages payload ms item = .ok ms') (hp : item.Proper)
include h hp

theorem called_step : ms'.flatMap (·.called) = ms.flatMap (·.called) ++ item.calls := by
  rcases item_step h hp with ⟨c, hc, -, -, -, -, rfl⟩ | ⟨hk, rfl⟩ | ⟨hk, rfl⟩
  · rw [hc]
    refine flatMap_put_call _ [c] rfl fun a ha => ?_
    simp [Message.called, Message.parseToolCalls, ha]
  · simp [Message.called, calls, hk]
  · have hcalls : item.calls = [] := by
      unfold calls
      rcases hk with hk | hk | hk <;> rw [hk]
    simp [Message.called, Message.parseToolCalls, hcalls]

theorem toolResults_step (hc : Converted item) : ms'.flatMap (·.toolResults) = ms.flatMap (·.toolResults) ++ item.results := by
  rcases item_step h hp with ⟨c, -, hr, -, -, -, rfl⟩ | ⟨hk, rfl⟩ | ⟨hk, rfl⟩
  · rw [hr]
    refine flatMap_put_call _ [] rfl fun a ha => ?_
    simp [Message.toolResults, ha]
  · simp [Message.toolResults, Message.stringContent, results, hk]
  · have hm : item.kind? = some .message := by simpa [hc.1, hc.2] using hk
    have hrole : item.chatRole ≠ "tool" := by
      intro ht
      simpa [ht] using hp.role hm
    simp [Message.toolResults, results, hm, hrole]

theorem said_step (hc : Converted item) : ms'.flatMap (·.said) = ms.flatMap (·.said) ++ item.said := by
  rcases item_step h hp with ⟨c, -, -, hs, -, -, rfl⟩ | ⟨hk, rfl⟩ | ⟨hk, rfl⟩
  · rw [hs]
    refine flatMap_put_call _ [] rfl fun a ha => ?_
    rw [append_nil]
    rfl
  · simp [Message.said, said, hk]
  · have hm : item.kind? = some .message := by simpa [hc.1, hc.2] using hk
    have hrole : item.chatRole ≠ "tool" := by
      intro ht
      simpa [ht] using hp.role hm
    simp [Message.said, said, hm, hrole, content_ne_absent, stringContent_item]

theorem asked_step (hc : Converted item) : ms'.flatMap (·.asked) =
      ms.flatMap (·.asked) ++ (item.said.filter fun x => x.1 = "user").map (·.2) := by
  rcases item_step h hp with ⟨c, -, -, hs, -, -, rfl⟩ | ⟨hk, rfl⟩ | ⟨hk, rfl⟩
  · rw [hs]
    refine flatMap_put_call _ [] rfl fun a ha => ?_
    simp [Message.asked, ha]
  · simp [Message.asked, said, hk]
  · have hm : item.kind? = some .message := by simpa [hc.1, hc.2] using hk
    by_cases hrole : item.chatRole = "user"
    · simp [Message.asked, said, hm, hrole, stringContent_item]
    · simp [Message.asked, said, hm, hrole]

def Message.loose (m : Message) : List Unit := if m.toolCallID = "" ∧ m.content ≠ .absent then [()] else []

/-- An item that has no case of its own. -/
def ResponsesInputItem.loose (item : ResponsesInputItem) : List Unit :=
  if item.kind? = some .message ∨ item.kind? = some .customToolCallOutput ∨ item.kind? = some .reasoning then [()]
  else []

theorem loose_step : ms'.flatMap (·.loose) = ms.flatMap (·.loose) ++ item.loose := by
  rcases item_step h hp with ⟨c, -, -, hs, hr, hc, rfl⟩ | ⟨hk, rfl⟩ | ⟨hk, rfl⟩
  · have hm : item.kind? ≠ some .message := by
      intro hm
      simp [said, hm] at hs
    have hloose : item.loose = [] := by simp [loose, hm, hr, hc]
    rw [hloose]
    refine flatMap_put_call _ [] rfl fun a ha => ?_
    rw [append_nil]
    rfl
  · have hid := (hp.callID (by simp [hk]) (by simp [hk])).1
    simp [Message.loose, loose, hk, hid]
  · simp [Message.loose, loose, hk, content_ne_absent]

end Item

/-! ## Results behind their calls -/

/-- The call of an id, with only assistant and tool messages after it. -/
def OpenCall (id : String) (ms : List Message) : Prop :=
  Monitors.Since (fun a => id ∈ a.called.map (·.id)) (fun a => a.role = "assistant" ∨ a.role = "tool") ms

theorem vetted_put_call (h : Vetted MessageAnswers ms) :
    Vetted MessageAnswers (appendToolCallToLastAssistant ms c) := by
  have hrole : ∀ (m : Message) (l : List Message), m.role = "assistant" → MessageAnswers l m :=
    fun m l hm ht => absurd (hm.symm.trans ht) (by decide)
  rcases put_call ms c with ⟨l, a, rfl, ha, hput⟩ | hput
  · rw [hput]
    exact vetted_concat.mpr ⟨(vetted_concat.mp h).1, hrole _ l ha⟩
  · rw [hput]
    exact vetted_concat.mpr ⟨h, hrole _ ms rfl⟩

/-- The calls that are open among the items are open among the messages, and every tool message has its call. -/
def Paired (before : List ResponsesInputItem) (ms : List Message) : Prop :=
  (∀ id, Monitors.Since (fun c => id ∈ c.calls.map (·.id)) (fun c => c.kind? ≠ some .message) before → OpenCall id ms) ∧
    Vetted MessageAnswers ms

theorem paired_step {before : List ResponsesInputItem}
    (h : responsesInputItemToChatMessages payload ms item = .ok ms') (hp : item.Proper) (hc : Converted item)
    (hv : ItemAnswers before item) (hpair : Paired before ms) : Paired (before ++ [item]) ms' := by
  obtain ⟨hopen, hms⟩ := hpair
  rcases item_step h hp with ⟨c, hcalls, -, -, -, -, rfl⟩ | ⟨hk, rfl⟩ | ⟨hk, rfl⟩
  · refine ⟨fun id hid => ?_, vetted_put_call hms⟩
    rcases since_concat.mp hid with hid | ⟨-, hid⟩
    · rw [hcalls] at hid
      rw [mem_singleton.mp hid]
      rcases put_call ms c with ⟨l, a, rfl, ha, hput⟩ | hput
      · rw [hput]
        exact since_concat.mpr (.inl (by simp [Message.called, Message.parseToolCalls, ha]))
      · rw [hput]
        exact since_concat.mpr (.inl (by simp [Message.called, Message.parseToolCalls]))
    · have h := hopen id hid
      rcases put_call ms c with ⟨l, a, rfl, ha, hput⟩ | hput
      · rw [hput]
        refine since_concat.mpr ?_
        rcases since_concat.mp h with hid | ⟨-, hl⟩
        · left
          simp only [Message.called, if_pos ha] at hid ⊢
          show id ∈ List.map (·.id) (a.parseToolCalls ++ [c])
          rw [map_append]
          exact mem_append_left _ hid
        · exact .inr ⟨.inl ha, hl⟩
      · rw [hput]
        exact since_concat.mpr (.inr ⟨.inl rfl, h⟩)
  · have hresults : item.results = [(item.callID, item.output.toText)] := by simp [results, hk]
    have hcalls : item.calls = [] := by simp [calls, hk]
    refine ⟨fun id hid => ?_, vetted_concat.mpr ⟨hms, fun _ => hopen item.callID (hv (by simp [hresults]))⟩⟩
    rcases since_concat.mp hid with hid | ⟨-, hid⟩
    · simp [hcalls] at hid
    · exact since_concat.mpr (.inr ⟨.inr rfl, hopen id hid⟩)
  · have hm : item.kind? = some .message := by simpa [hc.1, hc.2] using hk
    have hcalls : item.calls = [] := by simp [calls, hm]
    refine ⟨fun id hid => ?_, vetted_concat.mpr ⟨hms, fun ht => ?_⟩⟩
    · rcases since_concat.mp hid with hid | ⟨hid, -⟩
      · simp [hcalls] at hid
      · exact absurd hm hid
    · simpa [show item.chatRole = "tool" from ht] using hp.role hm

end Steps

/-! ## Whole inputs -/

section Runs

variable {payload : String → String → String} {instructions : RawValue} {items : List ResponsesInputItem}
  {messages : List Message}

theorem instructionsMessages_cases (instructions : RawValue) :
    instructionsMessages instructions = [] ∨
      instructionsMessages instructions = [{ role := "system", content := .string instructions.toText }] := by
  unfold instructionsMessages
  split_ifs
  · exact .inr rfl
  · exact .inl rfl

/-- **Results stay behind their calls.** -/
theorem answered_run (hrun : responsesRequestMessagesToChat payload instructions (.array items) = .ok messages)
    (hp : ∀ item ∈ items, item.Proper) (hc : ∀ item ∈ items, Converted item) (hv : Vetted ItemAnswers items) :
    Vetted MessageAnswers messages := by
  have hstart : Paired [] (instructionsMessages instructions) := by
    refine ⟨fun id hid => absurd hid not_since_nil, ?_⟩
    rcases instructionsMessages_cases instructions with h | h
    · rw [h]
      exact vetted_nil
    · rw [h]
      exact vetted_concat.mpr ⟨vetted_nil, fun ht => absurd ht (by simp)⟩
  refine (foldlM_trace (fun before item after ms ms' hsplit hstep hpair => ?_) hrun hstart).2
  have hmem : item ∈ items := by simp [hsplit]
  exact paired_step hstep (hp item hmem) (hc item hmem) (hv before item after hsplit) hpair

theorem kept_of_converted
    (hrun : responsesRequestMessagesToChat payload instructions (.array items) = .ok messages)
    (hp : ∀ item ∈ items, item.Proper) (hc : ∀ item ∈ items, Converted item) :
    KeptFromResponses instructions items messages where
  calls := by
    have h := foldlM_emits (fun item hi _ _ hstep => called_step hstep (hp item hi)) hrun
    rcases instructionsMessages_cases instructions with hm | hm <;> simpa [hm, Message.called] using h
  results := by
    have h := foldlM_emits (fun item hi _ _ hstep => toolResults_step hstep (hp item hi) (hc item hi)) hrun
    rcases instructionsMessages_cases instructions with hm | hm <;> simpa [hm, Message.toolResults] using h
  said := foldlM_emits (fun item hi _ _ hstep => said_step hstep (hp item hi) (hc item hi)) hrun
  asked := by
    have h := foldlM_emits (fun item hi _ _ hstep => asked_step hstep (hp item hi) (hc item hi)) hrun
    rcases instructionsMessages_cases instructions with hm | hm <;> simpa [hm, Message.asked] using h
  answered := answered_run hrun hp hc

theorem converted_of_kept
    (hrun : responsesRequestMessagesToChat payload instructions (.array items) = .ok messages)
    (hp : ∀ item ∈ items, item.Proper) (hkept : KeptFromResponses instructions items messages) :
    ∀ item ∈ items, Converted item := by
  have hloose := foldlM_emits (fun item hi _ _ hstep => loose_step hstep (hp item hi)) hrun
  -- every loose message is one that is said, as tool messages have the id of an output item
  have hsaid : ∀ m ∈ messages, m.loose.length ≤ m.said.length := by
    intro m hm
    by_cases ht : m.role = "tool"
    · have hmem : (m.toolCallID, m.stringContent) ∈ messages.flatMap (·.toolResults) :=
        mem_flatMap.mpr ⟨m, hm, by simp [Message.toolResults, ht]⟩
      rw [hkept.results] at hmem
      obtain ⟨item, hi, hr⟩ := mem_flatMap.mp hmem
      have hid : m.toolCallID ≠ "" := by
        unfold results at hr
        split at hr
        · next hk =>
          rw [(Prod.mk.inj (mem_singleton.mp hr)).1]
          exact ((hp item hi).callID (by simp [hk]) (by simp [hk])).1
        · next hk =>
          rw [(Prod.mk.inj (mem_singleton.mp hr)).1]
          exact ((hp item hi).callID (by simp [hk]) (by simp [hk])).1
        · simp at hr
      simp [Message.loose, hid]
    · by_cases ha : m.content = .absent
      · simp [Message.loose, ha]
      · simp only [Message.loose, Message.said, ht, ha, or_self, if_false]
        split_ifs <;> simp
  have hle : (messages.flatMap (·.loose)).length ≤ (messages.flatMap (·.said)).length := by
    rw [length_flatMap, length_flatMap]
    exact sum_le_sum hsaid
  have hstart : ((instructionsMessages instructions).flatMap (·.loose)).length =
      ((instructionsMessages instructions).flatMap (·.said)).length := by
    rcases instructionsMessages_cases instructions with hm | hm <;> simp [hm, Message.loose, Message.said]
  rw [hloose, hkept.said, length_append, length_append, hstart, Nat.add_le_add_iff_left,
    length_flatMap, length_flatMap] at hle
  intro item hi
  by_contra hnot
  refine absurd hle (not_le.mpr (sum_lt_sum _ _ (fun i _ => ?_) ⟨item, hi, ?_⟩))
  · unfold said loose
    by_cases hk : i.kind? = some .message <;> simp [hk]
  · have hk : item.kind? = some .customToolCallOutput ∨ item.kind? = some .reasoning := by
      by_contra hk
      exact hnot (not_or.mp hk)
    rcases hk with hk | hk <;> simp [said, loose, hk]

variable {α β : Type} {chatOptions : String → β → Except String α} {req : ResponsesRequest β} {chat : ChatRequest α}

theorem responses_accepted (hok : responsesRequestToChatCompletionsRequest payload chatOptions req = .ok chat) :
    responsesRequestMessagesToChat payload req.instructions req.input = .ok chat.messages ∧
      responsesRequestToolsToChat req.tools = .ok chat.tools ∧
      responsesRequestToolChoiceToChat req.toolChoice = .ok chat.toolChoice ∧
      chat.maxCompletionTokens = req.maxOutputTokens ∧ chat.maxTokens = none := by
  unfold responsesRequestToChatCompletionsRequest at hok
  split_ifs at hok with hmodel
  · cases hok
  · obtain ⟨-, -, hok⟩ := bind_eq_ok.mp hok
    obtain ⟨_, hmessages, hok⟩ := bind_eq_ok.mp hok
    obtain ⟨_, htools, hok⟩ := bind_eq_ok.mp hok
    obtain ⟨_, htoolChoice, hok⟩ := bind_eq_ok.mp hok
    obtain ⟨_, -, hok⟩ := bind_eq_ok.mp hok
    cases hok
    exact ⟨hmessages, htools, htoolChoice, rfl, rfl⟩

end Runs

/-- **An accepted input is kept exactly if it has no output of a custom tool and no reasoning.** Those items are read as
user messages. -/
theorem responses_request_to_chat_request {α β : Type} (payload : String → String → String)
    (chatOptions : String → β → Except String α) (req : ResponsesRequest β) (chat : ChatRequest α)
    (items : List ResponsesInputItem) (hinput : req.input = .array items) (hp : ∀ item ∈ items, item.Proper)
    (hok : responsesRequestToChatCompletionsRequest payload chatOptions req = .ok chat) :
    KeptFromResponses req.instructions items chat.messages ↔
      ∀ item ∈ items, item.kind? ≠ some .customToolCallOutput ∧ item.kind? ≠ some .reasoning := by
  have hrun := (responses_accepted hok).1
  rw [hinput] at hrun
  exact ⟨converted_of_kept hrun hp, kept_of_converted hrun hp⟩

/-! ## A call and its result -/

def clockItems : List ResponsesInputItem :=
  [{ type := "message", role := "user", content := .parts [.object "input_text" "what time is it" ""] },
    { type := "function_call", callID := "c1", name := "clock", arguments := .string "\x7b\x7d" },
    { type := "function_call_output", callID := "c1", output := .string "noon" },
    { role := "assistant", content := .string "it is noon" }]

def clockRequest (items : List ResponsesInputItem) : ResponsesRequest Unit where
  model := "gpt"
  instructions := .string "be brief"
  input := .array items
  options := ()

theorem clockItems_proper : ∀ item ∈ clockItems, item.Proper := by
  have hproper : ∀ item ∈ clockItems, item.kind?.isSome = true ∧
      (item.kind? = some .message → item.chatRole ∈ ["system", "developer", "user", "assistant"]) ∧
      (item.kind? ≠ some .message → item.kind? ≠ some .reasoning →
        item.callID ≠ "" ∧ trimSpace item.callID = item.callID) := by decide
  exact fun item hi => ⟨(hproper item hi).1, (hproper item hi).2.1, (hproper item hi).2.2⟩

theorem responses_request_to_chat_request_of_call :
    ∃ chat, responsesRequestToChatCompletionsRequest (fun _ json => json) (fun _ _ => .ok ()) (clockRequest clockItems) =
        .ok chat ∧
      chat.messages.map (·.role) = ["system", "user", "assistant", "tool", "assistant"] ∧
      KeptFromResponses (.string "be brief") clockItems chat.messages := by
  cases hrun : responsesRequestToChatCompletionsRequest (α := Unit) (fun _ json => json) (fun _ _ => .ok ())
      (clockRequest clockItems) with
  | error e =>
    have hok : (responsesRequestToChatCompletionsRequest (α := Unit) (fun _ json => json) (fun _ _ => .ok ())
      (clockRequest clockItems)).isOk = true := by decide
    rw [hrun] at hok
    simp [Except.isOk, Except.toBool] at hok
  | ok chat =>
    refine ⟨chat, rfl, ?_, ?_⟩
    · have hroles : ((responsesRequestToChatCompletionsRequest (α := Unit) (fun _ json => json) (fun _ _ => .ok ())
          (clockRequest clockItems)).map fun chat => chat.messages.map (·.role)) =
          .ok ["system", "user", "assistant", "tool", "assistant"] := by decide
      rw [hrun] at hroles
      simpa [Except.map] using hroles
    · exact (responses_request_to_chat_request (fun _ json => json) (fun _ _ => .ok ()) (clockRequest clockItems) chat
        clockItems rfl clockItems_proper hrun).mpr (by decide)

/-- The output of a custom tool and a reasoning item each become an empty user message. -/
theorem custom_output_read_as_user_message :
    ∃ (items : List ResponsesInputItem) (messages : List Message), (∀ item ∈ items, item.Proper) ∧
      items.map (·.kind?) = [some .customToolCall, some .reasoning, some .customToolCallOutput] ∧
      responsesRequestMessagesToChat (fun _ json => json) .absent (.array items) = .ok messages ∧
      messages.map (·.role) = ["assistant", "user", "user"] ∧ ¬ KeptFromResponses .absent items messages := by
  refine ⟨[{ type := "custom_tool_call", callID := "c1", name := "patch", input := .string "diff" },
    { type := "reasoning", id := "rs1" },
    { type := "custom_tool_call_output", callID := "c1", output := .string "done" }],
    [{ role := "assistant", toolCalls := some [{ id := "c1", type := "custom", name := "patch", arguments := "diff" }] },
      { role := "user", content := .string "" }, { role := "user", content := .string "" }], ?_, by decide,
    by decide, by decide, fun hkept => ?_⟩
  · intro item hi
    rcases mem_cons.mp hi with rfl | hi
    · exact ⟨by decide, by decide, by decide⟩
    rcases mem_cons.mp hi with rfl | hi
    · exact ⟨by decide, by decide, by decide⟩
    · rw [mem_singleton.mp hi]
      exact ⟨by decide, by decide, by decide⟩
  · exact absurd hkept.results (by decide)

end Desktop2Stereo.Requests
