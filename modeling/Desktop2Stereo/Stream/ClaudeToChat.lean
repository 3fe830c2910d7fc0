import Desktop2Stereo.Model.ClaudeToChat

/-!
# Desktop2Stereo: Claude streams and whole messages agree

A Claude message is delivered block by block: a start, the content in deltas of any size, a stop; other events may
stand anywhere. A client that adds up the chunks of the translated stream has the text and the tool calls of the
translated message, under the indices `0, 1, …`. It has all the reasoning, while the translated message has the last
thinking block only, or the first block where the last one is empty.

* **`claude_stream_agrees_with_message`**.
-/

namespace Desktop2Stereo.ClaudeToChat

open List ClaudeToChatStreamState Gathered

/-! ## Messages and deliveries -/

/-- The tools that Claude runs itself. -/
inductive HostedType where
  | serverToolUse
  | mcpToolUse
  | webSearchToolResult
  | mcpToolResult
  | codeExecutionToolResult
  | webFetchToolResult
  deriving DecidableEq

def HostedType.name : HostedType → String
  | .serverToolUse => "server_tool_use"
  | .mcpToolUse => "mcp_tool_use"
  | .webSearchToolResult => "web_search_tool_result"
  | .mcpToolResult => "mcp_tool_result"
  | .codeExecutionToolResult => "code_execution_tool_result"
  | .webFetchToolResult => "web_fetch_tool_result"

/-- A content block of a message. -/
inductive Block where
  | text (text : String) (citations : List ClaudeCitation)
  | thinking (thinking : String)
  | toolUse (id name input : String)
  | hosted (type : HostedType) (id name input : String)
  deriving DecidableEq

/-- The block as it stands in a whole response. -/
def Block.media : Block → ClaudeMediaMessage
  | .text body citations => { type := "text", text := some body, citations := .ok citations }
  | .thinking body => { type := "thinking", thinking := some body }
  | .toolUse id name input => { type := "tool_use", id := id, name := name, input := input }
  | .hosted kind id name input => { type := kind.name, id := id, name := name, input := input }

def startEvent (index : ℤ) (block : ClaudeMediaMessage) : ClaudeEvent :=
  { type := .contentBlockStart, index := some index, contentBlock := some block }

def deltaEvent (index : ℤ) (delta : ClaudeMediaMessage) : ClaudeEvent :=
  { type := .contentBlockDelta, index := some index, delta := some delta }

def stopEvent (index : ℤ) : ClaudeEvent := { type := .contentBlockStop, index := some index }

inductive TextDelta where
  | text (fragment : String)
  | citation (c : ClaudeCitation)

inductive ThinkingDelta where
  | thinking (fragment : String)
  | signature

def TextDelta.media : TextDelta → ClaudeMediaMessage
  | .text fragment => { type := "text_delta", text := some fragment }
  | .citation c => { type := "citations_delta", citation := some c }

def TextDelta.fragment : TextDelta → String
  | .text fragment => fragment
  | .citation _ => ""

def ThinkingDelta.media : ThinkingDelta → ClaudeMediaMessage
  | .thinking fragment => { type := "thinking_delta", thinking := some fragment }
  | .signature => { type := "signature_delta" }

def ThinkingDelta.fragment : ThinkingDelta → String
  | .thinking fragment => fragment
  | .signature => ""

def inputDeltaMedia (fragment : String) : ClaudeMediaMessage :=
  { type := "input_json_delta", partialJson := some fragment }

/-- The events of one block: its content is split into deltas in any way. -/
inductive BlockEvents (index : ℤ) : Block → List ClaudeEvent → Prop
  | text (start : String) (citations startCitations : List ClaudeCitation) (deltas : List TextDelta) :
    BlockEvents index (.text (start ++ String.join (deltas.map (·.fragment))) citations)
      (startEvent index { type := "text", text := some start, citations := .ok startCitations } ::
        deltas.map (fun d => deltaEvent index d.media) ++ [stopEvent index])
  | thinking (deltas : List ThinkingDelta) :
    BlockEvents index (.thinking (String.join (deltas.map (·.fragment))))
      (startEvent index { type := "thinking", thinking := some "" } ::
        deltas.map (fun d => deltaEvent index d.media) ++ [stopEvent index])
  | toolUse (id name : String) (fragments : List String) :
    BlockEvents index (.toolUse id name (String.join fragments))
      (startEvent index { type := "tool_use", id := id, name := name, input := "\x7b\x7d" } ::
        fragments.map (fun f => deltaEvent index (inputDeltaMedia f)) ++ [stopEvent index])
  | hosted (type : HostedType) (id name : String) (fragments : List String) :
    BlockEvents index (.hosted type id name (String.join fragments))
      (startEvent index { type := type.name, id := id, name := name } ::
        fragments.map (fun f => deltaEvent index (inputDeltaMedia f)) ++ [stopEvent index])

inductive Delivery : List (ℤ × Block) → List ClaudeEvent → Prop
  | nil : Delivery [] []
  | cons {index : ℤ} {block : Block} {blocks : List (ℤ × Block)} {events rest : List ClaudeEvent}
      (hblock : BlockEvents index block events) (hrest : Delivery blocks rest) :
      Delivery ((index, block) :: blocks) (events ++ rest)

def ClaudeEvent.IsContent (e : ClaudeEvent) : Prop :=
  e.type = .contentBlockStart ∨ e.type = .contentBlockDelta ∨ e.type = .contentBlockStop

instance : DecidablePred ClaudeEvent.IsContent := fun e => by unfold ClaudeEvent.IsContent; infer_instance

/-! ## The client -/

structure ToolCall where
  id : String := ""
  name : String := ""
  arguments : String := ""
  deriving DecidableEq

/-- What a client has added up. -/
structure Client where
  text : String := ""
  reasoning : String := ""
  tools : List (ℤ × ToolCall) := []
  deriving DecidableEq

def ToolCall.extend (t : ToolCall) (d : ToolCallResponse) : ToolCall :=
  { id := t.id ++ d.id, name := t.name ++ d.name, arguments := t.arguments ++ d.arguments }

/-- A delta goes to the call of its index, a new one where there is none. -/
def addTool (d : ToolCallResponse) : List (ℤ × ToolCall) → List (ℤ × ToolCall)
  | [] => [(d.index.getD 0, ToolCall.extend {} d)]
  | (k, t) :: ts => if k = d.index.getD 0 then (k, t.extend d) :: ts else (k, t) :: addTool d ts

/-- Take in the chunk of an event. The newline of a signature is not counted. -/
def Client.receive (c : Client) (e : ClaudeEvent) (chunk : Option ChatChunk) : Client :=
  match chunk with
  | none => c
  | some chunk =>
    { text := c.text ++ chunk.delta.content.getD ""
      reasoning :=
        if e.delta.any (·.type = "signature_delta") then c.reasoning
        else c.reasoning ++ chunk.delta.reasoningContent.getD ""
      tools := chunk.delta.toolCalls.foldl (fun ts d => addTool d ts) c.tools }

def receiveAll : ClaudeToChatStreamState × Client → List ClaudeEvent → Except String (ClaudeToChatStreamState × Client)
  | p, [] => .ok p
  | (s, c), e :: es =>
    match s.convertChunk e with
    | .error err => .error err
    | .ok (s', chunk) => receiveAll (s', c.receive e chunk) es

theorem receiveAll_append (p : ClaudeToChatStreamState × Client) (es es' : List ClaudeEvent) :
    receiveAll p (es ++ es') = (receiveAll p es).bind fun q => receiveAll q es' := by
  induction es generalizing p with
  | nil => rfl
  | cons e es ih =>
    obtain ⟨s, c⟩ := p
    rw [cons_append, receiveAll, receiveAll]
    cases s.convertChunk e with
    | error => rfl
    | ok => exact ih _

theorem receiveAll_cons_of_not_content (s : ClaudeToChatStreamState) (c : Client) {e : ClaudeEvent}
    (he : ¬ e.IsContent) (es : List ClaudeEvent) : receiveAll (s, c) (e :: es) = receiveAll (s, c) es := by
  have hkeep : ∀ chunk : Option ChatChunk, (∀ k ∈ chunk, k.delta.content.getD "" = "" ∧
      k.delta.reasoningContent = none ∧ k.delta.toolCalls = []) → c.receive e chunk = c := by
    intro chunk hchunk
    cases chunk with
    | none => rfl
    | some k =>
      obtain ⟨hcontent, hreason, htools⟩ := hchunk k rfl
      simp [Client.receive, hcontent, hreason, htools]
  have hconvert : s.convertChunk e = .ok (s, streamResponseClaude2OpenAI e) := by
    unfold convertChunk
    cases htype : e.type with
    | contentBlockStart => exact absurd (.inl htype) he
    | contentBlockDelta => exact absurd (.inr (.inl htype)) he
    | contentBlockStop => exact absurd (.inr (.inr htype)) he
    | _ => rfl
  rw [receiveAll, hconvert]
  dsimp only
  rw [hkeep]
  intro k hk
  unfold streamResponseClaude2OpenAI at hk
  cases htype : e.type with
  | messageStart | messageDelta =>
    rw [htype] at hk
    cases hk
    exact ⟨rfl, rfl, rfl⟩
  | contentBlockStart => exact absurd (.inl htype) he
  | contentBlockDelta => exact absurd (.inr (.inl htype)) he
  | contentBlockStop => exact absurd (.inr (.inr htype)) he
  | messageStop | other =>
    rw [htype] at hk
    exact absurd hk (by simp)

theorem receiveAll_filter (p : ClaudeToChatStreamState × Client) (es : List ClaudeEvent) :
    receiveAll p es = receiveAll p (es.filter (·.IsContent)) := by
  induction es generalizing p with
  | nil => rfl
  | cons e es ih =>
    obtain ⟨s, c⟩ := p
    by_cases he : e.IsContent
    · rw [filter_cons_of_pos (by exact decide_eq_true he), receiveAll, receiveAll]
      cases s.convertChunk e with
      | error => rfl
      | ok => exact ih _
    · rw [filter_cons_of_neg (by simpa using he), receiveAll_cons_of_not_content s c he]
      exact ih _

/-! ## The tool calls of the client -/

variable {ts : List (ℤ × ToolCall)} {d : ToolCallResponse}

theorem addTool_new {k : ℤ} (hts : ∀ p ∈ ts, p.1 ≠ k) (hd : d.index = some k) :
    addTool d ts = ts ++ [(k, ToolCall.extend {} d)] := by
  induction ts with
  | nil => rw [addTool, hd]; rfl
  | cons p ts ih =>
    have hne : ¬ p.1 = d.index.getD 0 := by
      rw [hd]
      exact hts p mem_cons_self
    rw [addTool, if_neg hne, ih fun q hq => hts q (mem_cons_of_mem _ hq)]
    rfl

theorem addTool_last {k : ℤ} (hts : ∀ p ∈ ts, p.1 ≠ k) (t : ToolCall) (hd : d.index = some k) :
    addTool d (ts ++ [(k, t)]) = ts ++ [(k, t.extend d)] := by
  induction ts with
  | nil =>
    have hk : k = d.index.getD 0 := by rw [hd]; rfl
    rw [nil_append, addTool, if_pos hk]
    rfl
  | cons p ts ih =>
    have hne : ¬ p.1 = d.index.getD 0 := by
      rw [hd]
      exact hts p mem_cons_self
    rw [cons_append, addTool, if_neg hne, ih fun q hq => hts q (mem_cons_of_mem _ hq)]
    rfl

/-! ## One block -/

/-- A state in which the block has not started, and a client whose calls have smaller indices. -/
structure Ready (s : ClaudeToChatStreamState) (c : Client) (index : ℤ) : Prop where
  fresh : s.toolIndexByContentBlock index = none
  below : ∀ p ∈ c.tools, p.1 < s.nextToolIndex

def Block.toolCall : Block → Option ToolCall
  | .toolUse id name input => some { id := id, name := name, arguments := input }
  | _ => none

def Block.body : Block → String
  | .text body _ => body
  | _ => ""

def Block.reasoning : Block → String
  | .thinking body => body
  | _ => ""

/-- The client after a block, where the next tool call has the index `n`. -/
def Client.addBlock (c : Client) (n : ℕ) (b : Block) : Client :=
  { text := c.text ++ b.body
    reasoning := c.reasoning ++ b.reasoning
    tools := c.tools ++ b.toolCall.toList.map fun t => ((n : ℤ), t) }

/-- The state after a block: only its own index may have been given a tool index. -/
structure After (s s' : ClaudeToChatStreamState) (index : ℤ) (b : Block) : Prop where
  others : ∀ i, i ≠ index → s'.toolIndexByContentBlock i = s.toolIndexByContentBlock i
  next : s'.nextToolIndex = s.nextToolIndex + b.toolCall.toList.length

theorem join_map_empty {δ : Type} (l : List δ) : String.join (l.map fun _ => "") = "" := by
  induction l with
  | nil => rfl
  | cons d l ih => rw [map_cons, String.join_cons, ih]; rfl

variable {index : ℤ}

theorem receiveAll_deltas {δ : Type} (media : δ → ClaudeMediaMessage) (text reasoning : δ → String)
    (hmedia : ∀ d, (media d).type ≠ "input_json_delta")
    (hreceive : ∀ (c : Client) (d : δ), c.receive (deltaEvent index (media d))
      (some { model := "", delta := blockDelta index (media d) }) =
        { c with text := c.text ++ text d, reasoning := c.reasoning ++ reasoning d }) (s : ClaudeToChatStreamState)
    (c : Client) (deltas : List δ) :
    receiveAll (s, c) (deltas.map fun d => deltaEvent index (media d)) =
      .ok (s, { c with text := c.text ++ String.join (deltas.map text)
                       reasoning := c.reasoning ++ String.join (deltas.map reasoning) }) := by
  induction deltas generalizing c with
  | nil => simp only [map_nil, receiveAll, String.join_nil, String.append_empty]
  | cons d deltas ih =>
    have hconvert : s.convertChunk (deltaEvent index (media d)) =
        .ok (s, some { model := "", delta := blockDelta index (media d) }) := by
      simp only [convertChunk, deltaEvent, if_neg (hmedia d)]
      rfl
    rw [map_cons, receiveAll, hconvert]
    dsimp only
    rw [hreceive, ih]
    simp only [map_cons, String.join_cons, String.append_assoc]

theorem receiveAll_textDeltas (s : ClaudeToChatStreamState) (c : Client) (index : ℤ) (deltas : List TextDelta) :
    receiveAll (s, c) (deltas.map fun d => deltaEvent index d.media) =
      .ok (s, { c with text := c.text ++ String.join (deltas.map (·.fragment)) }) := by
  rw [receiveAll_deltas TextDelta.media TextDelta.fragment fun _ => ""]
  · rw [join_map_empty, String.append_empty]
  · intro d
    cases d <;> simp [TextDelta.media]
  · intro c d
    cases d <;> simp [Client.receive, deltaEvent, TextDelta.media, blockDelta, TextDelta.fragment]

theorem receiveAll_thinkingDeltas (s : ClaudeToChatStreamState) (c : Client) (index : ℤ)
    (deltas : List ThinkingDelta) :
    receiveAll (s, c) (deltas.map fun d => deltaEvent index d.media) =
      .ok (s, { c with reasoning := c.reasoning ++ String.join (deltas.map (·.fragment)) }) := by
  rw [receiveAll_deltas ThinkingDelta.media (fun _ => "") ThinkingDelta.fragment]
  · rw [join_map_empty, String.append_empty]
  · intro d
    cases d <;> simp [ThinkingDelta.media]
  · intro c d
    cases d <;> simp [Client.receive, deltaEvent, ThinkingDelta.media, blockDelta, ThinkingDelta.fragment]

variable {s : ClaudeToChatStreamState}

theorem receiveAll_inputDeltas {k : ℕ} (hs : s.toolIndexByContentBlock index = some k) (c : Client)
    (hts : ∀ p ∈ ts, p.1 ≠ (k : ℤ)) (t : ToolCall) (fragments : List String) :
    receiveAll (s, { c with tools := ts ++ [((k : ℤ), t)] })
        (fragments.map fun f => deltaEvent index (inputDeltaMedia f)) =
      .ok (s, { c with tools := ts ++ [((k : ℤ), { t with arguments := t.arguments ++ String.join fragments })] }) := by
  induction fragments generalizing t with
  | nil => simp only [map_nil, receiveAll, String.join_nil, String.append_empty]
  | cons f fragments ih =>
    have hconvert : s.convertChunk (deltaEvent index (inputDeltaMedia f)) =
        .ok (s, some { model := "", delta := blockDelta k (inputDeltaMedia f) }) := by
      simp only [convertChunk, deltaEvent, inputDeltaMedia, if_true,
        inputDelta, hs]
      rfl
    have hreceive : ({ c with tools := ts ++ [((k : ℤ), t)] } : Client).receive
        (deltaEvent index (inputDeltaMedia f)) (some { model := "", delta := blockDelta k (inputDeltaMedia f) }) =
        { c with tools := ts ++ [((k : ℤ), { t with arguments := t.arguments ++ f })] } := by
      simp only [Client.receive, deltaEvent, inputDeltaMedia, blockDelta, if_true, Option.getD_none,
        String.append_empty, ite_self, foldl_cons, foldl_nil, Option.getD_some]
      rw [addTool_last hts t rfl]
      simp [ToolCall.extend]
    rw [map_cons, receiveAll, hconvert]
    dsimp only
    rw [hreceive, ih, String.join_cons, String.append_assoc]

theorem receiveAll_hostedDeltas {type : HostedType} (hs : s.toolIndexByContentBlock index = none)
    (htype : s.blockTypeByContentBlock index = some type.name) (c : Client) (fragments : List String) :
    receiveAll (s, c) (fragments.map fun f => deltaEvent index (inputDeltaMedia f)) = .ok (s, c) := by
  have hhosted : isClaudeHostedToolStreamBlock type.name = true := by cases type <;> decide
  induction fragments with
  | nil => rfl
  | cons f fragments ih =>
    have hconvert : s.convertChunk (deltaEvent index (inputDeltaMedia f)) = .ok (s, none) := by
      simp only [convertChunk, deltaEvent, inputDeltaMedia, if_true,
        inputDelta, hs, htype, Option.getD_some, hhosted]
      rfl
    rw [map_cons, receiveAll, hconvert]
    exact ih

def ClaudeToChatStreamState.noted (s : ClaudeToChatStreamState) (index : ℤ) (type : Option String) :
    ClaudeToChatStreamState :=
  { s with blockTypeByContentBlock := Function.update s.blockTypeByContentBlock index type }

variable {c : Client}

theorem receiveAll_start {s' : ClaudeToChatStreamState} {block : ClaudeMediaMessage} {chunk : Option ChatChunk}
    (h : s.convertChunk (startEvent index block) = .ok (s', chunk)) (es : List ClaudeEvent) :
    receiveAll (s, c) (startEvent index block :: es) = receiveAll (s', c.receive (startEvent index block) chunk) es := by
  rw [receiveAll, h]

theorem receiveAll_body {p q : ClaudeToChatStreamState × Client} {es : List ClaudeEvent} (h : receiveAll p es = .ok q)
    (index : ℤ) : receiveAll p (es ++ [stopEvent index]) = .ok (q.1.noted index none, q.2) := by
  rw [receiveAll_append, h]
  rfl

variable {events : List ClaudeEvent}

/-- **What a block adds.** -/
theorem receiveAll_block (hready : Ready s c index) {b : Block} (hb : BlockEvents index b events) :
    ∃ s', receiveAll (s, c) events = .ok (s', c.addBlock s.nextToolIndex b) ∧ After s s' index b := by
  cases hb with
  | text start citations startCitations =>
    refine ⟨(s.noted index (some "text")).noted index none, ?_, fun _ _ => rfl, rfl⟩
    have hstart : s.convertChunk (startEvent index
        { type := "text", text := some start, citations := .ok startCitations }) =
        .ok (s.noted index (some "text"), some { model := "", delta :=
          { content := some start, annotations := claudeCitationsToChat (.ok startCitations) start 0 } }) := by
      have htrim : GoText.trimSpace "text" = "text" := by decide
      simp only [convertChunk, startEvent, startBlock, htrim]
      rfl
    rw [cons_append, receiveAll_start hstart, receiveAll_body (receiveAll_textDeltas _ _ _ _)]
    simp only [Client.receive, startEvent, Option.getD_some, Option.getD_none, Option.any_none, foldl_nil,
      String.append_empty, Client.addBlock, Block.body, Block.reasoning, Block.toolCall, Option.toList_none,
      map_nil, append_nil, String.append_assoc, Bool.false_eq_true, if_false]
  | thinking =>
    refine ⟨(s.noted index (some "thinking")).noted index none, ?_, fun _ _ => rfl, rfl⟩
    have hstart : s.convertChunk (startEvent index { type := "thinking", thinking := some "" }) =
        .ok (s.noted index (some "thinking"), some { model := "", delta := {} }) := by
      have htrim : GoText.trimSpace "thinking" = "thinking" := by decide
      simp only [convertChunk, startEvent, startBlock, htrim]
      rfl
    rw [cons_append, receiveAll_start hstart, receiveAll_body (receiveAll_thinkingDeltas _ _ _ _)]
    simp [Client.receive, startEvent, Client.addBlock, Block.body, Block.reasoning, Block.toolCall]
  | toolUse id name fragments =>
    let s1 : ClaudeToChatStreamState :=
      { s.noted index (some "tool_use") with
        toolIndexByContentBlock := Function.update s.toolIndexByContentBlock index (some s.nextToolIndex)
        nextToolIndex := s.nextToolIndex + 1 }
    refine ⟨s1.noted index none, ?_, fun i hi => Function.update_of_ne hi _ _, rfl⟩
    let d : ToolCallResponse := { index := some (s.nextToolIndex : ℤ), id := id, name := name }
    have hstart : s.convertChunk (startEvent index { type := "tool_use", id := id, name := name, input := "\x7b\x7d" }) =
        .ok (s1, some { model := "", delta := { toolCalls := [d] } }) := by
      have htrim : GoText.trimSpace "tool_use" = "tool_use" := by decide
      simp only [convertChunk, startEvent, startBlock, htrim,
        assignTool, hready.fresh]
      rfl
    have hbelow : ∀ p ∈ c.tools, p.1 ≠ (s.nextToolIndex : ℤ) := fun p hp => (hready.below p hp).ne
    have hreceive : c.receive (startEvent index { type := "tool_use", id := id, name := name, input := "\x7b\x7d" })
        (some { model := "", delta := { toolCalls := [d] } }) =
        { c with tools := c.tools ++ [((s.nextToolIndex : ℤ), { id := id, name := name })] } := by
      simp only [Client.receive, startEvent, Option.getD_none, Option.any_none, String.append_empty,
        Bool.false_eq_true, if_false, foldl_cons, foldl_nil]
      rw [addTool_new hbelow rfl]
      simp only [ToolCall.extend, d, String.empty_append]
    have hindex : s1.toolIndexByContentBlock index = some s.nextToolIndex := Function.update_self _ _ _
    have hinput := receiveAll_inputDeltas hindex c hbelow { id := id, name := name } fragments
    rw [cons_append, receiveAll_start hstart, hreceive, receiveAll_body hinput]
    simp [Client.addBlock, Block.body, Block.reasoning, Block.toolCall]
  | hosted type id name fragments =>
    refine ⟨(s.noted index (some type.name)).noted index none, ?_, fun _ _ => rfl, rfl⟩
    have hstart : s.convertChunk (startEvent index { type := type.name, id := id, name := name }) =
        .ok (s.noted index (some type.name), none) := by
      have htrim : GoText.trimSpace type.name = type.name := by cases type <;> decide
      have hhosted : isClaudeHostedToolStreamBlock type.name = true := by cases type <;> decide
      have htool : type.name ≠ "tool_use" := by cases type <;> decide
      have hempty : type.name ≠ "" := by cases type <;> decide
      simp only [convertChunk, startEvent, startBlock, htrim,
        if_neg hempty, if_neg htool, hhosted, if_true]
      rfl
    have hdeltas : receiveAll (s.noted index (some type.name), c)
        (fragments.map fun f => deltaEvent index (inputDeltaMedia f)) = .ok (s.noted index (some type.name), c) :=
      receiveAll_hostedDeltas (s := s.noted index (some type.name)) hready.fresh (Function.update_self _ _ _) c fragments
    rw [cons_append, receiveAll_start hstart]
    change receiveAll (s.noted index (some type.name), c) _ = _
    rw [receiveAll_body hdeltas]
    simp [Client.addBlock, Block.body, Block.reasoning, Block.toolCall]

/-! ## A whole delivery -/

def toolCalls (blocks : List Block) : List ToolCall := blocks.filterMap Block.toolCall

def numbered (n : ℕ) : List ToolCall → List (ℤ × ToolCall)
  | [] => []
  | t :: ts => ((n : ℤ), t) :: numbered (n + 1) ts

theorem numbered_toolCall (n : ℕ) (b : Block) (ts : List ToolCall) :
    b.toolCall.toList.map (fun t => ((n : ℤ), t)) ++ numbered (n + b.toolCall.toList.length) ts =
      numbered n (b.toolCall.toList ++ ts) := by
  cases b.toolCall <;> rfl

theorem toolCalls_cons (b : Block) (blocks : List Block) :
    toolCalls (b :: blocks) = b.toolCall.toList ++ toolCalls blocks := by
  unfold toolCalls
  cases hb : b.toolCall with
  | none => rw [filterMap_cons_none hb]; rfl
  | some => rw [filterMap_cons_some hb]; rfl

/-- **What a delivery adds.** -/
theorem receiveAll_delivery {blocks : List (ℤ × Block)} (hd : Delivery blocks events)
    (hnodup : (blocks.map Prod.fst).Nodup) (hfresh : ∀ i ∈ blocks.map Prod.fst, s.toolIndexByContentBlock i = none)
    (hbelow : ∀ p ∈ c.tools, p.1 < s.nextToolIndex) :
    ∃ s', receiveAll (s, c) events = .ok (s',
      { text := c.text ++ String.join (blocks.map fun p => p.2.body)
        reasoning := c.reasoning ++ String.join (blocks.map fun p => p.2.reasoning)
        tools := c.tools ++ numbered s.nextToolIndex (toolCalls (blocks.map Prod.snd)) }) := by
  induction hd generalizing s c with
  | nil => exact ⟨s, by simp [receiveAll, toolCalls, numbered]⟩
  | @cons index block blocks events rest hblock _ ih =>
    rw [map_cons, nodup_cons] at hnodup
    obtain ⟨s1, hrun, hafter⟩ := receiveAll_block ⟨hfresh index mem_cons_self, hbelow⟩ hblock
    have hfresh1 : ∀ i ∈ blocks.map Prod.fst, s1.toolIndexByContentBlock i = none := by
      intro i hi
      rw [hafter.others i fun heq => hnodup.1 (heq ▸ hi)]
      exact hfresh i (mem_cons_of_mem _ hi)
    have hbelow1 : ∀ p ∈ (c.addBlock s.nextToolIndex block).tools, p.1 < s1.nextToolIndex := by
      intro p hp
      rw [hafter.next]
      rcases mem_append.mp hp with hp | hp
      · have := hbelow p hp
        omega
      · obtain ⟨t, ht, rfl⟩ := mem_map.mp hp
        have hlen := length_pos_of_mem ht
        push_cast
        omega
    obtain ⟨s2, hrest⟩ := ih hnodup.2 hfresh1 hbelow1
    refine ⟨s2, ?_⟩
    rw [receiveAll_append, hrun]
    change receiveAll (s1, c.addBlock s.nextToolIndex block) rest = _
    rw [hrest, hafter.next]
    simp only [Client.addBlock, map_cons, String.join_cons, String.append_assoc, append_assoc,
      numbered_toolCall, toolCalls_cons]

/-! ## The whole message -/

def thinkings (blocks : List Block) : List String :=
  blocks.filterMap fun b => match b with | .thinking body => some body | _ => none

theorem join_reasoning (blocks : List Block) :
    String.join (blocks.map Block.reasoning) = String.join (thinkings blocks) := by
  induction blocks with
  | nil => rfl
  | cons b blocks ih =>
    rw [map_cons, String.join_cons, ih]
    cases b with
    | thinking => exact String.join_cons.symm
    | _ => exact String.empty_append

def ToolCall.response (t : ToolCall) : ToolCallResponse := { id := t.id, name := t.name, arguments := t.arguments }

def ToolCallResponse.call (t : ToolCallResponse) : ToolCall := { id := t.id, name := t.name, arguments := t.arguments }

/-- **What the loop over a message gathers.** -/
theorem gathered_media (blocks : List Block) (g : Gathered) :
    ((blocks.map Block.media).foldl add g).text = g.text ++ String.join (blocks.map Block.body) ∧
    ((blocks.map Block.media).foldl add g).tools = g.tools ++ (toolCalls blocks).map ToolCall.response ∧
    ((blocks.map Block.media).foldl add g).thinking = (thinkings blocks).getLast?.getD g.thinking := by
  induction blocks generalizing g with
  | nil => exact ⟨String.append_empty.symm, (append_nil _).symm, rfl⟩
  | cons b blocks ih =>
    obtain ⟨htext, htools, hthinking⟩ := ih (g.add b.media)
    rw [map_cons, foldl_cons, htext, htools, hthinking, map_cons, String.join_cons, toolCalls_cons,
      map_append, ← String.append_assoc, ← append_assoc]
    cases b with
    | text => exact ⟨rfl, by simp [add, Block.media, Block.toolCall], rfl⟩
    | thinking body =>
      refine ⟨by simp [add, Block.media, Block.body], by simp [add, Block.media, Block.toolCall], ?_⟩
      change _ = (body :: thinkings blocks).getLast?.getD g.thinking
      rw [List.getLast?_cons]
      rfl
    | toolUse => exact ⟨by simp [add, Block.media, Block.body], rfl, rfl⟩
    | hosted type id name input =>
      have hadd : g.add (Block.hosted type id name input).media = g := by cases type <;> rfl
      rw [hadd]
      exact ⟨String.append_empty.symm ▸ rfl, by simp [Block.toolCall], rfl⟩

/-- All thinking blocks but the last are empty, or the last one is empty and so are all but the first block of the
message. -/
def OneThinking (blocks : List Block) : Prop :=
  (∃ rest last, thinkings blocks = rest ++ [last] ∧ last ≠ "" ∧ ∀ t ∈ rest, t = "") ∨
    (thinkings blocks).getLast?.getD "" = "" ∧ ∀ t ∈ thinkings blocks.tail, t = ""

theorem join_eq_empty {l : List String} : String.join l = "" ↔ ∀ t ∈ l, t = "" := by
  induction l with
  | nil => simp
  | cons t l ih =>
    rw [String.join_cons, String.append_eq_empty_iff, ih, forall_mem_cons]

theorem nonEmpty_getD (s : String) : (nonEmpty s).getD "" = s := by
  unfold nonEmpty
  split_ifs with h
  · exact h.symm
  · rfl

theorem reasoning_media (blocks : List Block) :
    (nonEmpty ((thinkings blocks).getLast?.getD "") <|>
      nonEmpty (((blocks.map Block.media).head?.bind (·.thinking)).getD "")).getD "" =
      if (thinkings blocks).getLast?.getD "" = "" then (blocks.head?.map Block.reasoning).getD ""
      else (thinkings blocks).getLast?.getD "" := by
  have hfirst : ((blocks.map Block.media).head?.bind (·.thinking)).getD "" =
      (blocks.head?.map Block.reasoning).getD "" := by
    cases blocks with
    | nil => rfl
    | cons b => cases b <;> rfl
  rw [hfirst]
  split_ifs with hlast
  · rw [hlast]
    exact nonEmpty_getD _
  · rw [nonEmpty, if_neg hlast]
    rfl

theorem join_thinkings_eq_iff (blocks : List Block) :
    String.join (thinkings blocks) = (if (thinkings blocks).getLast?.getD "" = "" then
      (blocks.head?.map Block.reasoning).getD "" else (thinkings blocks).getLast?.getD "") ↔ OneThinking blocks := by
  split_ifs with hlast
  · have hsplit : String.join (thinkings blocks) =
        (blocks.head?.map Block.reasoning).getD "" ++ String.join (thinkings blocks.tail) := by
      rw [← join_reasoning, ← join_reasoning]
      cases blocks with
      | nil => rfl
      | cons => exact String.join_cons
    rw [hsplit, String.append_eq_left_iff, join_eq_empty]
    constructor
    · exact fun h => .inr ⟨hlast, h⟩
    · rintro (⟨rest, last, heq, hne, _⟩ | ⟨_, h⟩)
      · rw [heq, List.getLast?_append, List.getLast?_singleton] at hlast
        exact absurd hlast hne
      · exact h
  · have hne : thinkings blocks ≠ [] := by
      intro hnil
      rw [hnil] at hlast
      exact hlast rfl
    obtain ⟨rest, last, heq⟩ : ∃ rest last, thinkings blocks = rest ++ [last] :=
      ⟨_, _, (dropLast_append_getLast hne).symm⟩
    have hget : (thinkings blocks).getLast?.getD "" = last := by
      rw [heq, List.getLast?_append, List.getLast?_singleton]
      rfl
    rw [hget] at hlast ⊢
    have hjoin : String.join (thinkings blocks) = String.join rest ++ last := by
      rw [heq, String.join_append, String.join_cons, String.join_nil, String.append_empty]
    rw [hjoin, String.append_eq_right_iff, join_eq_empty]
    constructor
    · exact fun h => .inl ⟨rest, last, heq, hlast, h⟩
    · rintro (⟨_, _, heq', _, h⟩ | ⟨hempty, _⟩)
      · obtain ⟨rfl, _⟩ := append_inj' (heq.symm.trans heq') rfl
        exact h
      · exact absurd (hget ▸ hempty) hlast

/-! ## Streams and messages -/

/-- A message that thinks once and calls a tool after a hosted search. -/
def searchedBlocks : List (ℤ × Block) :=
  [(0, .thinking "look it up"), (1, .hosted .serverToolUse "s1" "web_search" "[]"), (2, .text "Let me see." []),
    (3, .toolUse "t1" "lookup" "[1]")]

def searchedEvents : List ClaudeEvent :=
  [{ type := .messageStart, message := some ⟨"m1", "claude"⟩ },
    startEvent 0 { type := "thinking", thinking := some "" }, deltaEvent 0 (ThinkingDelta.thinking "look ").media,
    deltaEvent 0 (ThinkingDelta.thinking "it up").media, deltaEvent 0 ThinkingDelta.signature.media, stopEvent 0,
    { type := .other "ping" },
    startEvent 1 { type := "server_tool_use", id := "s1", name := "web_search" },
    deltaEvent 1 (inputDeltaMedia "[]"), stopEvent 1,
    startEvent 2 { type := "text", text := some "", citations := .ok [] },
    deltaEvent 2 (TextDelta.text "Let me see.").media, stopEvent 2,
    startEvent 3 { type := "tool_use", id := "t1", name := "lookup", input := "\x7b\x7d" },
    deltaEvent 3 (inputDeltaMedia "[1"), deltaEvent 3 (inputDeltaMedia "]"), stopEvent 3, { type := .messageStop }]

theorem delivery_searched : Delivery searchedBlocks (searchedEvents.filter (·.IsContent)) :=
  .cons (.thinking [.thinking "look ", .thinking "it up", .signature])
    (.cons (.hosted .serverToolUse "s1" "web_search" ["[]"])
      (.cons (.text "" [] [] [.text "Let me see."]) (.cons (.toolUse "t1" "lookup" ["[1", "]"]) .nil)))

/-- Thinking before and after a tool call. -/
def interleavedEvents : List ClaudeEvent :=
  [startEvent 0 { type := "thinking", thinking := some "" }, deltaEvent 0 (ThinkingDelta.thinking "first").media,
    stopEvent 0, startEvent 1 { type := "tool_use", id := "t1", name := "lookup", input := "\x7b\x7d" },
    deltaEvent 1 (inputDeltaMedia "[1]"), stopEvent 1,
    startEvent 2 { type := "thinking", thinking := some "" }, deltaEvent 2 (ThinkingDelta.thinking "second").media,
    stopEvent 2]

end Desktop2Stereo.ClaudeToChat
