import Desktop2Stereo.Request.ResponsesToChat

/-!
# Chat requests through Responses and back

A message becomes an item with the items of its calls behind it, so the way back finds each call behind the message it
belongs to.

* `SameMessage`, `SameTool`, `ToolChoice.meaning`, **`chat_to_responses_and_back`**: what is the same after both ways.
-/

namespace Desktop2Stereo.Requests

open GoText Checked List

/-! ## Conversations -/

def MessageContent.isText : MessageContent → Bool
  | .absent | .string _ => true
  | .parts l => l.all (·.text?.isSome)
  | .other _ => false

/-- A name or an id that is not empty and has no blanks around it. -/
def Tidy (s : String) : Prop := s ≠ "" ∧ trimSpace s = s

instance (s : String) : Decidable (Tidy s) := by
  unfold Tidy
  infer_instance

/-- A message of a conversation: text contents, calls of functions from the assistant, results of calls. -/
structure Message.Plain (m : Message) : Prop where
  role : m.role ∈ ["system", "user", "assistant", "tool"]
  content : m.content.isText = true
  string : m.role = "system" ∨ m.role = "tool" → m.isStringContent = true
  calls : m.parseToolCalls ≠ [] → m.role = "assistant"
  call : ∀ tc ∈ m.parseToolCalls, (tc.type = "" ∨ tc.type = "function") ∧ Tidy tc.id ∧ Tidy tc.name
  result : m.role = "tool" → Tidy m.toolCallID

def ToolCallRequest.said (tc : ToolCallRequest) : String × String × String := (tc.id, tc.name, tc.arguments)

structure SameMessage (m m' : Message) : Prop where
  role : m'.role = m.role
  text : m'.stringContent = m.stringContent
  calls : m'.parseToolCalls.map (·.said) = m.parseToolCalls.map (·.said)
  toolCallID : m.role = "tool" → m'.toolCallID = m.toolCallID

def systemTexts (messages : List Message) : List String :=
  ((messages.filter fun m => m.role = "system").map fun m => trimSpace m.stringContent).filter fun s => s ≠ ""

def leadingSystem (messages : List Message) : List Message :=
  if systemTexts messages = [] then []
  else [{ role := "system", content := .string (String.intercalate "\n\n" (systemTexts messages)) }]

/-! ## Calls -/

section Messages

variable {encode payload : String → String → String} {marshal : MessageContent → String} {m : Message}

theorem functionCallItem_eq {tc : ToolCallRequest} (htype : tc.type = "" ∨ tc.type = "function") (hid : Tidy tc.id)
    (hname : Tidy tc.name) : functionCallItem tc =
      some { type := "function_call", callID := tc.id, name := tc.name, arguments := .string tc.arguments } := by
  have hother : ¬ (tc.type ≠ "" ∧ tc.type ≠ "function") := by
    rintro ⟨h1, h2⟩
    exact htype.elim h1 h2
  unfold functionCallItem
  rw [hid.2, hname.2, if_neg hid.1, if_neg hother, if_neg hname.1]

theorem read_call {tc : ToolCallRequest} (ms : List Message) {a : Message} (ha : a.role = "assistant")
    (hid : Tidy tc.id) (hname : Tidy tc.name) :
    responsesInputItemToChatMessages payload (ms ++ [a])
        { type := "function_call", callID := tc.id, name := tc.name, arguments := .string tc.arguments } =
      .ok (ms ++ [{ a with toolCalls := some (a.parseToolCalls ++ [{ tc with type := "function" }]) }]) := by
  have htype : trimSpace "function_call" = "function_call" := by decide
  simp [responsesInputItemToChatMessages, htype, responsesFunctionCallItemToChatToolCall, responsesCallID, hid.2,
    hid.1, hname.2, hname.1, Except.map, appendToolCallToLastAssistant, ha, RawValue.toText]

variable (payload) in
theorem fold_calls (ms : List Message) (tcs : List ToolCallRequest)
    (h : ∀ tc ∈ tcs, (tc.type = "" ∨ tc.type = "function") ∧ Tidy tc.id ∧ Tidy tc.name) (a : Message)
    (ha : a.role = "assistant") :
    ∃ a' : Message, (tcs.filterMap functionCallItem).foldlM (responsesInputItemToChatMessages payload) (ms ++ [a]) =
        .ok (ms ++ [a']) ∧ a'.role = "assistant" ∧ a'.content = a.content ∧
      a'.parseToolCalls.map (·.said) = a.parseToolCalls.map (·.said) ++ tcs.map (·.said) := by
  induction tcs generalizing a with
  | nil => exact ⟨a, rfl, ha, rfl, by simp⟩
  | cons tc tcs ih =>
    obtain ⟨htype, hid, hname⟩ := h tc mem_cons_self
    obtain ⟨a', hrun, hrole, hcontent, hcalls⟩ := ih (fun t ht => h t (mem_cons_of_mem tc ht))
      { a with toolCalls := some (a.parseToolCalls ++ [{ tc with type := "function" }]) } ha
    refine ⟨a', ?_, hrole, hcontent, ?_⟩
    · rw [filterMap_cons_some (functionCallItem_eq htype hid hname), foldlM_cons,
        read_call ms ha hid hname]
      exact hrun
    · rw [hcalls]
      simp [Message.parseToolCalls, ToolCallRequest.said]

/-! ## Messages -/

theorem content_back (role : String) (h : m.content.isText = true) :
    responsesInputContentToChatContent payload (itemContent encode role m) = .string m.stringContent := by
  unfold itemContent Message.stringContent
  cases hc : m.content with
  | absent => rfl
  | string => rfl
  | other => simp [hc, MessageContent.isText] at h
  | parts l =>
    rw [hc] at h
    have hall : ∀ p ∈ l, p.text?.isSome = true := by simpa [MessageContent.isText] using h
    have hback : ∀ p ∈ l, chatPart payload (responsesPart encode role p) = p := by
      intro p hp
      cases p with
      | media => simpa [MediaContent.text?] using hall _ hp
      | text =>
        have hin : trimSpace "input_text" = "input_text" := by decide
        have hout : trimSpace "output_text" = "output_text" := by decide
        unfold responsesPart
        by_cases hr : role = "assistant" <;> simp [hr, chatPart, hin, hout]
    have hmap : (l.map (responsesPart encode role)).map (chatPart payload) = l := by
      rw [map_map]
      exact (map_congr_left hback).trans (map_id l)
    simp only [Message.parseContent, hc, responsesInputContentToChatContent, responsesContentPartsToChatContent, hmap]
    rw [if_pos (by simpa using hall)]

theorem read_message (ms : List Message) {role : String} (hrole : Tidy role) (h : m.content.isText = true) :
    responsesInputItemToChatMessages payload ms { role := role, content := itemContent encode role m } =
      .ok (ms ++ [{ role := role, content := .string m.stringContent }]) := by
  have htype : trimSpace "" = "" := by decide
  simp [responsesInputItemToChatMessages, htype, ResponsesInputItem.chatRole, hrole.2, hrole.1, content_back role h]

theorem read_output (ms : List Message) {id : String} (hid : Tidy id) (output : String) :
    responsesInputItemToChatMessages payload ms
        { type := "function_call_output", callID := id, output := .string output } =
      .ok (ms ++ [{ role := "tool", toolCallID := id, content := .string output }]) := by
  have htype : trimSpace "function_call_output" = "function_call_output" := by decide
  simp [responsesInputItemToChatMessages, htype, hid.2, RawValue.toText]

variable (encode payload marshal)

/-- **The items of a message are read back as the message.** System messages have none. -/
theorem fold_message (ms : List Message) (hm : m.Plain) :
    ∃ l, (inputItemsOf encode marshal m).foldlM (responsesInputItemToChatMessages payload) ms = .ok (ms ++ l) ∧
      List.Forall₂ SameMessage (if m.role = "system" then [] else [m]) l := by
  have hrole := hm.role
  simp only [mem_cons, not_mem_nil, or_false] at hrole
  rcases hrole with hr | hr | hr | hr
  · have hitems : inputItemsOf encode marshal m = [] := by
      have htrim : trimSpace "system" = "system" := by decide
      simp [inputItemsOf, hr, htrim]
    rw [hitems, hr]
    exact ⟨[], by simp; rfl, .nil⟩
  · have htrim : Tidy "user" := by decide
    have hitems : inputItemsOf encode marshal m = [{ role := "user", content := itemContent encode "user" m }] := by
      simp [inputItemsOf, hr, htrim.2]
    have hcalls : m.parseToolCalls = [] := by
      by_contra hne
      exact absurd (hr.symm.trans (hm.calls hne)) (by decide)
    rw [hitems, foldlM_cons, read_message ms htrim hm.content, hr]
    refine ⟨_, rfl, .cons ⟨hr.symm, rfl, ?_, fun ht => absurd (hr.symm.trans ht) (by decide)⟩ .nil⟩
    rw [hcalls]
    rfl
  · have htrim : Tidy "assistant" := by decide
    have hitems : inputItemsOf encode marshal m =
        { role := "assistant", content := itemContent encode "assistant" m } ::
          m.parseToolCalls.filterMap functionCallItem := by
      simp [inputItemsOf, hr, htrim.2]
    obtain ⟨a', hrun, hrole', hcontent, hcalls⟩ := fold_calls payload ms m.parseToolCalls hm.call
      { role := "assistant", content := .string m.stringContent } rfl
    rw [hitems, foldlM_cons, read_message ms htrim hm.content, hr]
    refine ⟨[a'], hrun, .cons ⟨hrole'.trans hr.symm, ?_, hcalls, fun ht => absurd (hr.symm.trans ht) (by decide)⟩
      .nil⟩
    unfold Message.stringContent
    rw [hcontent]
    rfl
  · have htrim : trimSpace "tool" = "tool" := by decide
    have hid := hm.result hr
    have hstring := hm.string (.inr hr)
    have hitems : inputItemsOf encode marshal m =
        [{ type := "function_call_output", callID := m.toolCallID, output := .string m.stringContent }] := by
      have hout : toolOutput marshal m = m.stringContent := by
        unfold toolOutput Message.stringContent
        unfold Message.isStringContent at hstring
        cases hc : m.content <;> simp [hc] at hstring ⊢
      simp [inputItemsOf, hr, htrim, hid.1, hid.2, hout]
    have hcalls : m.parseToolCalls = [] := by
      by_contra hne
      exact absurd (hr.symm.trans (hm.calls hne)) (by decide)
    rw [hitems, foldlM_cons, read_output ms hid, hr]
    refine ⟨_, rfl, .cons ⟨hr.symm, rfl, ?_, fun _ => rfl⟩ .nil⟩
    rw [hcalls]
    rfl

/-- **The items of a conversation are read back as its messages, without the system messages.** -/
theorem fold_messages (messages : List Message) (h : ∀ m ∈ messages, m.Plain) (ms : List Message) :
    ∃ l, (messages.flatMap (inputItemsOf encode marshal)).foldlM (responsesInputItemToChatMessages payload) ms =
        .ok (ms ++ l) ∧
      List.Forall₂ SameMessage (messages.filter fun m => m.role ≠ "system") l := by
  induction messages generalizing ms with
  | nil => exact ⟨[], by simp; rfl, .nil⟩
  | cons m messages ih =>
    obtain ⟨l1, hrun1, hsame1⟩ := fold_message encode payload marshal ms (h m mem_cons_self)
    obtain ⟨l2, hrun2, hsame2⟩ := ih (fun a ha => h a (mem_cons_of_mem m ha)) (ms ++ l1)
    refine ⟨l1 ++ l2, ?_, ?_⟩
    · rw [flatMap_cons, foldlM_append, hrun1, ← append_assoc]
      exact hrun2
    · have hfilter : (m :: messages).filter (fun m => m.role ≠ "system") =
          (if m.role = "system" then [] else [m]) ++ messages.filter fun m => m.role ≠ "system" := by
        by_cases hr : m.role = "system" <;> simp [hr]
      rw [hfilter]
      exact rel_append hsame1 hsame2

end Messages

/-! ## Instructions, tools and options -/

theorem instructionsPart_eq {m : Message} (hm : m.Plain) : instructionsPart m =
    if m.role = "system" ∧ trimSpace m.stringContent ≠ "" then some (trimSpace m.stringContent) else none := by
  have hrole := hm.role
  simp only [mem_cons, not_mem_nil, or_false] at hrole
  have htrim : trimSpace m.role = m.role ∧ m.role ≠ "developer" := by
    rcases hrole with hr | hr | hr | hr <;> rw [hr] <;> decide
  unfold instructionsPart
  rw [htrim.1]
  by_cases hr : m.role = "system"
  · have htext : systemText m = trimSpace m.stringContent := by
      have hstring := hm.string (.inl hr)
      unfold systemText Message.stringContent
      unfold Message.isStringContent at hstring
      cases hc : m.content <;> simp [hc] at hstring ⊢
    simp [hr, htext]
  · simp [hr, htrim.2]

theorem instructionsParts_eq {messages : List Message} (h : ∀ m ∈ messages, m.Plain) :
    messages.filterMap instructionsPart = systemTexts messages := by
  induction messages with
  | nil => rfl
  | cons m messages ih =>
    have ih := ih fun a ha => h a (mem_cons_of_mem m ha)
    rw [filterMap_cons, instructionsPart_eq (h m mem_cons_self), ih]
    unfold systemTexts
    by_cases hr : m.role = "system" <;> by_cases ht : trimSpace m.stringContent = "" <;> simp [hr, ht]

theorem systemTexts_tidy {messages : List Message} {s : String} (h : s ∈ systemTexts messages) : trimSpace s ≠ "" := by
  unfold systemTexts at h
  obtain ⟨hs, hne⟩ := mem_filter.mp h
  obtain ⟨m, -, rfl⟩ := mem_map.mp hs
  rw [trimSpace_trimSpace]
  simpa using hne

theorem intercalate_ne_blank (sep : String) {s : String} {l : List String} (h : trimSpace s ≠ "") :
    trimSpace (String.intercalate sep (s :: l)) ≠ "" := by
  cases l with
  | nil => simpa using h
  | cons =>
    rw [String.intercalate_cons_cons, String.append_assoc]
    exact trimSpace_append_ne_empty h _

/-- **The system texts come back as one message.** -/
theorem instructions_back {messages : List Message} (h : ∀ m ∈ messages, m.Plain) :
    instructionsMessages (instructionsOf messages) = leadingSystem messages := by
  unfold instructionsOf leadingSystem
  rw [instructionsParts_eq h]
  cases hs : systemTexts messages with
  | nil => decide
  | cons s l =>
    have hne := intercalate_ne_blank "\n\n" (l := l) (systemTexts_tidy (hs ▸ mem_cons_self))
    simp [instructionsMessages, RawValue.toText, hne]

/-- A function tool comes back with its name, description and parameters. Other tools keep a type without blanks. -/
structure SameTool (t t' : ToolDefinition) : Prop where
  function : t.type = "function" →
    t'.type = "function" ∧ t'.name = t.name ∧ t'.description = t.description ∧ t'.parameters = t.parameters
  type : trimSpace t.type = t.type → t'.type = t.type

theorem tool_back (marshalTool : ToolDefinition → String) {t : ToolDefinition} (h : t.type = "function" → Tidy t.name) :
    SameTool t (responsesToolToChat (chatToolToResponses marshalTool t)) := by
  have htrim : trimSpace "function" = "function" := by decide
  unfold chatToolToResponses
  by_cases ht : t.type = "function"
  · rw [if_pos ht]
    refine ⟨fun _ => ?_, fun _ => ?_⟩
    · simp [responsesToolToChat, htrim, (h ht).2]
    · simp [responsesToolToChat, htrim, ht]
  · rw [if_neg ht]
    refine ⟨fun hf => absurd hf ht, fun hb => ?_⟩
    simp [responsesToolToChat, hb, ht]

def ToolChoiceObject.chosen (o : ToolChoiceObject) : String := if o.name ≠ "" then o.name else o.functionName

def ToolChoice.meaning : ToolChoice → ToolChoice
  | .object o =>
    if o.type = "function" ∧ o.chosen ≠ "" then .object { type := "function", functionName := o.chosen } else .object o
  | choice => choice

/-- No blanks around the name of a chosen function. -/
def ToolChoice.Plain : ToolChoice → Prop
  | .object o => trimSpace o.name = o.name ∧ trimSpace o.functionName = o.functionName
  | _ => True

instance : (choice : ToolChoice) → Decidable choice.Plain
  | .object _ => inferInstanceAs (Decidable (_ ∧ _))
  | .absent | .mode _ | .other _ => inferInstanceAs (Decidable True)

theorem toolChoice_back {choice choice' : ToolChoice} (h : choice.Plain)
    (hback : responsesRequestToolChoiceToChat (chatToolChoiceToResponses choice) = .ok choice') :
    choice'.meaning = choice.meaning := by
  cases choice with
  | absent | mode s =>
    cases hback
    rfl
  | other => cases hback
  | object o =>
    obtain ⟨hname, hfunction⟩ := h
    have hblank : trimSpace "" = "" := by decide
    unfold chatToolChoiceToResponses at hback
    by_cases ht : o.type = "function"
    · by_cases hn : o.name = ""
      · by_cases hf : o.functionName = ""
        · simp [ht, hn, hf, responsesRequestToolChoiceToChat, hblank] at hback
          rw [← hback]
        · simp [ht, hn, hf, responsesRequestToolChoiceToChat, hfunction] at hback
          simp [← hback, ToolChoice.meaning, ToolChoiceObject.chosen, ht, hn, hf]
      · simp [ht, hn, responsesRequestToolChoiceToChat, hname] at hback
        simp [← hback, ToolChoice.meaning, ToolChoiceObject.chosen, ht, hn]
    · simp [ht, responsesRequestToolChoiceToChat] at hback
      rw [← hback]

section Requests

variable {α β : Type} {encode : String → String → String} {marshal : MessageContent → String}
  {marshalTool : ToolDefinition → String} {responsesOptions : ChatRequest α → Except String β}
  {req : ChatRequest α} {resp : ResponsesRequest β}

/-- The most tokens of the output: `max_completion_tokens` if it is given, or `max_tokens`. -/
def ChatRequest.effectiveMax (req : ChatRequest α) : Option ℕ := req.maxCompletionTokens.or req.maxTokens

theorem chat_accepted
    (hok : chatCompletionsRequestToResponsesRequest encode marshal marshalTool responsesOptions req = .ok resp) :
    resp.input = .array (req.messages.flatMap (inputItemsOf encode marshal)) ∧
      resp.instructions = instructionsOf req.messages ∧
      resp.tools = chatToolsToResponses marshalTool req.tools ∧
      resp.toolChoice = chatToolChoiceToResponses req.toolChoice ∧ resp.maxOutputTokens = req.effectiveMax := by
  unfold chatCompletionsRequestToResponsesRequest at hok
  split_ifs at hok with hmodel hn
  cases hoptions : responsesOptions req with
  | error =>
    rw [hoptions] at hok
    cases hok
  | ok =>
    rw [hoptions] at hok
    cases hok
    refine ⟨rfl, rfl, rfl, rfl, ?_⟩
    show maxOutputTokensOf req.maxTokens req.maxCompletionTokens = req.maxCompletionTokens.or req.maxTokens
    cases req.maxCompletionTokens <;> cases req.maxTokens <;> rfl

end Requests

/-- What is the same after both ways. -/
structure SameConversation {α : Type} (req chat : ChatRequest α) : Prop where
  messages : ∃ body, chat.messages = leadingSystem req.messages ++ body ∧
    List.Forall₂ SameMessage (req.messages.filter fun m => m.role ≠ "system") body
  tools : Option.Rel (List.Forall₂ SameTool) req.tools chat.tools
  toolChoice : chat.toolChoice.meaning = req.toolChoice.meaning
  effectiveMax : chat.effectiveMax = req.effectiveMax

/-- **Chat to Responses and back is the identity on conversations.** -/
theorem chat_to_responses_and_back {α β : Type} (encode payload : String → String → String)
    (marshal : MessageContent → String) (marshalTool : ToolDefinition → String)
    (responsesOptions : ChatRequest α → Except String β) (chatOptions : String → β → Except String α)
    (req chat : ChatRequest α) (resp : ResponsesRequest β) (hmessages : ∀ m ∈ req.messages, m.Plain)
    (htools : ∀ t ∈ req.tools.getD [], t.type = "function" → Tidy t.name) (hchoice : req.toolChoice.Plain)
    (hto : chatCompletionsRequestToResponsesRequest encode marshal marshalTool responsesOptions req = .ok resp)
    (hback : responsesRequestToChatCompletionsRequest payload chatOptions resp = .ok chat) :
    SameConversation req chat := by
  obtain ⟨hinput, hinstructions, hrespTools, hrespChoice, hrespMax⟩ := chat_accepted hto
  obtain ⟨hchatMessages, hchatTools, hchatChoice, hchatMax, hnone⟩ := responses_accepted hback
  refine ⟨?_, ?_, ?_, ?_⟩
  · obtain ⟨body, hrun, hsame⟩ := fold_messages encode payload marshal req.messages hmessages
      (instructionsMessages resp.instructions)
    rw [hinput] at hchatMessages
    have heq : chat.messages = instructionsMessages resp.instructions ++ body :=
      Except.ok.inj (hchatMessages.symm.trans hrun)
    rw [hinstructions, instructions_back hmessages] at heq
    exact ⟨body, heq, hsame⟩
  · rw [hrespTools] at hchatTools
    cases ht : req.tools with
    | none =>
      rw [ht] at hchatTools
      rw [← Except.ok.inj hchatTools]
      exact .none
    | some =>
      rw [ht] at hchatTools htools
      rw [← Except.ok.inj hchatTools, map_map]
      refine .some (forall₂_map_right_iff.mpr (forall₂_same.mpr fun t htmem => ?_))
      rw [Function.comp_apply]
      exact tool_back marshalTool (htools t htmem)
  · rw [hrespChoice] at hchatChoice
    exact toolChoice_back hchoice hchatChoice
  · rw [← hrespMax, ← hchatMax]
    unfold ChatRequest.effectiveMax
    rw [hnone, Option.or_none]

/-! ## A conversation with a call -/

def clockChat : ChatRequest Unit where
  model := "gpt"
  messages := [
    { role := "system", content := .string " be brief " },
    { role := "user", content := .parts [.text "what time ", .text "is it"] },
    { role := "assistant", toolCalls := some [{ id := "c1", type := "function", name := "clock", arguments := "now" }] },
    { role := "tool", toolCallID := "c1", content := .string "noon" },
    { role := "system", content := .string "no jokes" },
    { role := "assistant", content := .string "it is noon" }]
  tools := some [{ type := "function", name := "clock", description := "the time", parameters := some "object" }]
  toolChoice := .object { type := "function", functionName := "clock" }
  maxTokens := some 64
  options := ()

theorem clockChat_plain : ∀ m ∈ clockChat.messages, m.Plain := by
  have hplain : ∀ m ∈ clockChat.messages, m.role ∈ ["system", "user", "assistant", "tool"] ∧
      m.content.isText = true ∧ (m.role = "system" ∨ m.role = "tool" → m.isStringContent = true) ∧
      (m.parseToolCalls ≠ [] → m.role = "assistant") ∧
      (∀ tc ∈ m.parseToolCalls, (tc.type = "" ∨ tc.type = "function") ∧ Tidy tc.id ∧ Tidy tc.name) ∧
      (m.role = "tool" → Tidy m.toolCallID) := by decide
  intro m hm
  obtain ⟨h1, h2, h3, h4, h5, h6⟩ := hplain m hm
  exact ⟨h1, h2, h3, h4, h5, h6⟩

theorem chat_to_responses_and_back_of_call :
    ∃ resp chat,
      chatCompletionsRequestToResponsesRequest (fun _ json => json) (fun _ => "") (fun t => t.type) (fun _ => .ok ())
        clockChat = .ok resp ∧
      responsesRequestToChatCompletionsRequest (fun _ json => json) (fun _ _ => .ok ()) resp = .ok chat ∧
      chat.messages.map (·.role) = ["system", "user", "assistant", "tool", "assistant"] ∧
      SameConversation clockChat chat := by
  cases hto : chatCompletionsRequestToResponsesRequest (β := Unit) (fun _ json => json) (fun _ => "") (fun t => t.type)
      (fun _ => .ok ()) clockChat with
  | error e =>
    have hok : (chatCompletionsRequestToResponsesRequest (β := Unit) (fun _ json => json) (fun _ => "")
      (fun t => t.type) (fun _ => .ok ()) clockChat).isOk = true := by decide
    rw [hto] at hok
    simp [Except.isOk, Except.toBool] at hok
  | ok resp =>
    have hroles : ((chatCompletionsRequestToResponsesRequest (β := Unit) (fun _ json => json) (fun _ => "")
        (fun t => t.type) (fun _ => .ok ()) clockChat).bind fun resp =>
          (responsesRequestToChatCompletionsRequest (α := Unit) (fun _ json => json) (fun _ _ => .ok ()) resp).map
            fun chat => chat.messages.map (·.role)) =
        .ok ["system", "user", "assistant", "tool", "assistant"] := by decide
    rw [hto] at hroles
    cases hback : responsesRequestToChatCompletionsRequest (α := Unit) (fun _ json => json) (fun _ _ => .ok ()) resp with
    | error => simp [Except.bind, Except.map, hback] at hroles
    | ok chat =>
      refine ⟨resp, chat, rfl, hback, by simpa [Except.bind, Except.map, hback] using hroles, ?_⟩
      exact chat_to_responses_and_back (fun _ json => json) (fun _ json => json) (fun _ => "") (fun t => t.type)
        (fun _ => .ok ()) (fun _ _ => .ok ()) clockChat chat resp clockChat_plain (by decide)
        (by decide) hto hback

end Desktop2Stereo.Requests
