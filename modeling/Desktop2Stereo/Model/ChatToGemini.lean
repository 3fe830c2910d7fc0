import Desktop2Stereo.Lib.Emitters
import Desktop2Stereo.Model.Streams
import Desktop2Stereo.Model.Usage

/-!
# Desktop2Stereo: Gemini responses from a Chat stream

`ChatToGeminiStreamState` of `relaykit/relayconvert`. A `functionCall` part is atomic, so the tool calls of a choice are
kept until the choice ends. A pointer to a tool is the position of the tool among the tools of its choice: the maps by
index and by id never lead to another choice.
-/

namespace Desktop2Stereo.ChatToGemini

open GoText Emitters Accounting

/-! ## Messages -/

structure IndexedChoice extends StreamChoice where
  index : ℤ := 0
  deriving DecidableEq

/-- `dto.ChatCompletionsStreamResponse`, with the whole usage. -/
structure ChatChunk where
  choices : List IndexedChoice := []
  usage : Option Accounting.Usage := none
  deriving DecidableEq

/-- The argument of a call: `{}`, an object that was decoded, or `{"arguments": raw}`. -/
inductive FunctionArguments (α : Type)
  | empty
  | object (o : α)
  | arguments (raw : String)
  deriving DecidableEq

structure FunctionCall (α : Type) where
  id : String
  functionName : String
  arguments : FunctionArguments α
  deriving DecidableEq

inductive GeminiPart (α : Type)
  | text (s : String)
  | functionCall (call : FunctionCall α)
  deriving DecidableEq

inductive GeminiFinishReason
  | stop | maxTokens | safety
  deriving DecidableEq

structure GeminiChatCandidate (α : Type) where
  index : ℤ
  role : String := "model"
  parts : List (GeminiPart α)
  finishReason : Option GeminiFinishReason
  deriving DecidableEq

structure GeminiChatResponse (α : Type) where
  candidates : List (GeminiChatCandidate α)
  usageMetadata : GeminiUsageMetadata
  deriving DecidableEq

/-! ## Usage metadata -/

def openAIBillingUsageFromUsage (usage : Accounting.Usage) : Option BillingUsage :=
  usage.billingUsage.or (newOpenAIChatBillingUsage usage.toUsageCounts)

def geminiBillingMetadataFromOpenAIUsage (usage : Accounting.Usage) : Option GeminiUsageMetadata :=
  match usage.billingUsage with
  | none => none
  | some billingUsage =>
    match billingUsage.geminiUsageMetadata with
    | none => none
    | some metadata =>
      if billingUsage.source ≠ billingUsageSourceGeminiChat ∧
          billingUsage.semantic ≠ billingUsageSemanticGemini then none
      else some { metadata with billingUsage := some billingUsage }

/-- The metadata for a usage: the payload of a Gemini snapshot, or else the counts of the usage. -/
def metadataOfUsage (usage : Accounting.Usage) : GeminiUsageMetadata :=
  (geminiBillingMetadataFromOpenAIUsage usage).getD
    { promptTokenCount := usage.promptTokens
      candidatesTokenCount := usage.completionTokens
      totalTokenCount := usage.totalTokens
      billingUsage := openAIBillingUsageFromUsage usage }

variable {α : Type}

def newGeminiStreamResponse (candidates : List (GeminiChatCandidate α)) (usage : Option Accounting.Usage)
    (estimatePromptTokens : ℤ) : GeminiChatResponse α where
  candidates := candidates
  usageMetadata :=
    match usage with
    | none => { promptTokenCount := estimatePromptTokens, totalTokenCount := estimatePromptTokens }
    | some usage => metadataOfUsage usage

/-! ## The tools of a choice -/

structure ChatToGeminiStreamTool where
  id : String := ""
  name : String := ""
  arguments : String := ""
  emitted : Bool := false
  deriving DecidableEq

/-- The tool with what a delta adds. -/
def ChatToGeminiStreamTool.extend (tool : ChatToGeminiStreamTool) (toolCall : ToolCallResponse) :
    ChatToGeminiStreamTool :=
  { tool with
    id := if trimSpace toolCall.id ≠ "" then trimSpace toolCall.id else tool.id
    name := if trimSpace toolCall.name ≠ "" then trimSpace toolCall.name else tool.name
    arguments := tool.arguments ++ toolCall.arguments }

/-- What `toolsByChoice`, `toolByIndex` and `toolByID` have of one choice. -/
structure ChoiceTools where
  tools : List ChatToGeminiStreamTool := []
  toolByIndex : ℤ → Option ℕ := fun _ => none
  toolByID : String → Option ℕ := fun _ => none

namespace ChoiceTools

/-- The tool a delta is for, if there is one: by its id, else by its index unless it has another id. -/
def findTool (t : ChoiceTools) (toolIndex : ℤ) (incomingID : String) : Option ℕ :=
  let byID := if incomingID ≠ "" then t.toolByID incomingID else none
  (byID.or (t.toolByIndex toolIndex)).filter fun position =>
    let id := (t.tools.getD position {}).id
    incomingID = "" || id = "" || id = incomingID

/-- From now on the index, and the id if there is one, lead to the tool. -/
def bind (t : ChoiceTools) (toolIndex : ℤ) (incomingID : String) (position : ℕ) : ChoiceTools where
  tools := t.tools
  toolByIndex := Function.update t.toolByIndex toolIndex (some position)
  toolByID := if incomingID ≠ "" then Function.update t.toolByID incomingID (some position) else t.toolByID

def appendToolCallDelta (t : ChoiceTools) (choiceIndex : ℤ) (toolCall : ToolCallResponse) :
    Except String ChoiceTools :=
  let toolIndex := toolCall.index.getD 0
  if toolIndex < 0 then .error s!"OpenAI chat choice {choiceIndex} has negative tool-call index {toolIndex}"
  else
    let incomingID := trimSpace toolCall.id
    let found := t.findTool toolIndex incomingID
    let position := found.getD t.tools.length
    let tools := if found.isSome then t.tools else t.tools ++ [({} : ChatToGeminiStreamTool)]
    let tool := tools.getD position {}
    let incomingName := trimSpace toolCall.name
    if tool.emitted then
      .error s!"OpenAI chat choice {choiceIndex} tool-call index {toolIndex} received data after completion"
    else if incomingID ≠ "" ∧ tool.id ≠ "" ∧ tool.id ≠ incomingID then
      let id := tool.id.quote
      let incoming := incomingID.quote
      .error s!"OpenAI chat choice {choiceIndex} tool-call index {toolIndex} changed id from {id} to {incoming}"
    else if incomingName ≠ "" ∧ tool.name ≠ "" ∧ tool.name ≠ incomingName then
      let name := tool.name.quote
      let incoming := incomingName.quote
      .error s!"OpenAI chat choice {choiceIndex} tool-call index {toolIndex} changed name from {name} to {incoming}"
    else
      .ok (({ t with tools := tools.set position (tool.extend toolCall) }).bind toolIndex incomingID position)

/-- `unmarshal` gives the object of a text, if it is that of an object other than `null`. -/
def geminiFunctionArguments (unmarshal : String → Option α) (raw : String) : FunctionArguments α :=
  if trimSpace raw = "" ∨ trimSpace raw = "null" then .empty
  else
    match unmarshal raw with
    | some args => .object args
    | none => .arguments raw

def pending (t : ChoiceTools) : List ChatToGeminiStreamTool := t.tools.filter fun tool => !tool.emitted

def finishChoice (unmarshal : String → Option α) (t : ChoiceTools) (choiceIndex : ℤ) :
    Except String (List (GeminiPart α) × ChoiceTools) :=
  if t.pending.any (·.name = "") then
    .error s!"OpenAI chat choice {choiceIndex} has a tool call without a function name"
  else
    .ok (
      t.pending.map fun tool => .functionCall {
        id := tool.id, functionName := tool.name, arguments := geminiFunctionArguments unmarshal tool.arguments },
      { t with tools := t.tools.map fun tool => { tool with emitted := true } })

def appendToolCallDeltas (t : ChoiceTools) (choiceIndex : ℤ) : List ToolCallResponse → Except String ChoiceTools
  | [] => .ok t
  | toolCall :: toolCalls =>
    match t.appendToolCallDelta choiceIndex toolCall with
    | .error e => .error e
    | .ok t => appendToolCallDeltas t choiceIndex toolCalls

end ChoiceTools

/-! ## The stream -/

structure ChatToGeminiStreamState where
  toolsByChoice : ℤ → ChoiceTools := fun _ => {}
  finishedChoices : Finset ℤ := ∅
  seenChoices : Finset ℤ := ∅
  usage : Option Accounting.Usage := none
  usageEmitted : Bool := false
  finalized : Bool := false

def newChatToGeminiStreamState : ChatToGeminiStreamState := {}

/-- The calls of a delta; one without an index has that of its position. -/
def indexedToolCalls (toolCalls : List ToolCallResponse) : List ToolCallResponse :=
  toolCalls.mapIdx fun position toolCall => { toolCall with index := some (toolCall.index.getD position) }

def geminiFinishReason (finishReason : String) : GeminiFinishReason :=
  if trimSpace finishReason = "length" then .maxTokens
  else if trimSpace finishReason = "content_filter" then .safety
  else .stop

def IndexedChoice.finish (choice : IndexedChoice) : Option String :=
  choice.finishReason.filter fun reason => trimSpace reason ≠ ""

def textParts (content : String) : List (GeminiPart α) := if content ≠ "" then [.text content] else []

section Conversion

variable (unmarshal : String → Option α) (estimatePromptTokens : ℤ)

/-- The body of the loop over the choices of a chunk. -/
def convertChoice (choice : IndexedChoice) :
    Fallible ChatToGeminiStreamState (GeminiChatCandidate α) String := fun s =>
  let s := { s with seenChoices := insert choice.index s.seenChoices }
  let content := choice.delta.getContentString
  if choice.index ∈ s.finishedChoices then
    if content ≠ "" ∨ choice.delta.toolCalls ≠ [] then
      let index := choice.index
      .error s!"OpenAI chat choice {index} received data after completion"
    else .ok (s, [])
  else
    match (s.toolsByChoice choice.index).appendToolCallDeltas choice.index
        (indexedToolCalls choice.delta.toolCalls) with
    | .error e => .error e
    | .ok tools =>
      match choice.finish with
      | none =>
        .ok (
          { s with toolsByChoice := Function.update s.toolsByChoice choice.index tools },
          if content ≠ "" then [{ index := choice.index, parts := textParts content, finishReason := none }] else [])
      | some reason =>
        match tools.finishChoice unmarshal choice.index with
        | .error e => .error e
        | .ok finished =>
          .ok (
            { s with
              toolsByChoice := Function.update s.toolsByChoice choice.index finished.2
              finishedChoices := insert choice.index s.finishedChoices },
            [{ index := choice.index, parts := textParts content ++ finished.1
               finishReason := some (geminiFinishReason reason) }])

def convertChunk (chunk : ChatChunk) : Fallible ChatToGeminiStreamState (GeminiChatResponse α) String := fun s =>
  if s.finalized then .error "OpenAI chat to Gemini stream received data after finalization"
  else
    let s := { s with usage := (chunk.usage.map usageFromChatUsage).or s.usage }
    match tryEach (convertChoice unmarshal) chunk.choices s with
    | .error e => .error e
    | .ok (s, candidates) =>
      if candidates = [] then
        if chunk.usage.isSome ∧ s.finishedChoices ≠ ∅ then
          .ok ({ s with usageEmitted := true }, [newGeminiStreamResponse [] s.usage estimatePromptTokens])
        else .ok (s, [])
      else
        .ok (
          { s with usageEmitted := s.usageEmitted || chunk.usage.isSome },
          [newGeminiStreamResponse candidates chunk.usage estimatePromptTokens])

/-- The choices to be ended by the finalization. Every choice with tools has been seen. -/
def ChatToGeminiStreamState.openChoices (s : ChatToGeminiStreamState) : Finset ℤ :=
  s.seenChoices.filter fun c => (s.toolsByChoice c).pending ≠ [] ∨ c ∉ s.finishedChoices

/-- The body of the loop over the choices that are not finished. -/
def finalizeChoice (c : ℤ) : Fallible ChatToGeminiStreamState (GeminiChatCandidate α) String := fun s =>
  match (s.toolsByChoice c).finishChoice unmarshal c with
  | .error e => .error e
  | .ok finished =>
    .ok (
      { s with toolsByChoice := Function.update s.toolsByChoice c finished.2 },
      [{ index := c, parts := finished.1, finishReason := some .stop }])

def finalize : Fallible ChatToGeminiStreamState (GeminiChatResponse α) String := fun s =>
  if s.finalized then .ok (s, [])
  else
    match tryEach (finalizeChoice unmarshal) (s.openChoices.sort (· ≤ ·)) s with
    | .error e => .error e
    | .ok (s, candidates) =>
      let s := { s with finalized := true }
      if candidates = [] then
        if s.usage.isNone ∨ s.usageEmitted then .ok (s, [])
        else .ok ({ s with usageEmitted := true }, [newGeminiStreamResponse [] s.usage estimatePromptTokens])
      else
        .ok (
          { s with usageEmitted := s.usage.isSome },
          [newGeminiStreamResponse candidates s.usage estimatePromptTokens])

end Conversion

end Desktop2Stereo.ChatToGemini
