import Desktop2Stereo.Lib.Emitters
import Desktop2Stereo.Lib.KeyedMap
import Desktop2Stereo.Model.Streams

/-!
# Chat chunks to Claude events

The converter of `to_claude_messages_resp.go`. One text or thinking block is open at a time, or a group of tool blocks.
A tool takes its block index when its first delta arrives and is started when its id and name are known. The pointers
of the two tables are positions in the list of tools. Fresh ids are an arbitrary function of the block index: a block
asks for one at most once. Of a usage the converted counts are kept, not the billing record that goes with them.
-/

namespace Desktop2Stereo

open GoText Emitters

inductive LastMessageType
  | none | text | tools | thinking
  deriving DecidableEq

structure ClaudeStreamToolCall where
  blockIndex : ℤ
  id : String := ""
  name : String := ""
  pendingArguments : String := ""
  started : Bool := false
  deriving DecidableEq

structure ClaudeConvertInfo where
  lastMessagesType : LastMessageType := .none
  index : ℤ := 0
  usage : Option Usage := none
  finishReason : String := ""
  done : Bool := false
  toolCallBaseIndex : ℤ := 0
  toolCallMaxIndexOffset : ℤ := 0
  toolCalls : List ClaudeStreamToolCall := []
  toolCallByIndex : KeyedMap (Prod.fst : ℤ × ℕ → ℤ) := .empty
  toolCallByID : KeyedMap (Prod.fst : String × ℕ → String) := .empty

/-- `chatAnnotationsToClaude` for a text that is empty. -/
def chatAnnotationsToClaude : RawJson (List Annotation) → List ClaudeCitation
  | .parsed annotations => annotations.filterMap fun annotation =>
      let citation := annotation.urlCitation.getD annotation.fields
      if trimSpace annotation.type ≠ "url_citation" ∨ trimSpace citation.url = "" then none
      else some {
        url := trimSpace citation.url
        title := if trimSpace citation.title = "" then none else some (trimSpace citation.title)
        citedText := if citation.citedText = "" then none else some citation.citedText
        encryptedIndex := if citation.encryptedIndex = "" then none else some citation.encryptedIndex }
  | _ => []

/-- `OpenAIFinishReasonToClaudeStopReason` -/
def stopReasonOpenAI2Claude (finishReason : String) : String :=
  match toLower finishReason with
  | "stop" => "end_turn"
  | "stop_sequence" => "stop_sequence"
  | "length" | "max_tokens" => "max_tokens"
  | "content_filter" => "refusal"
  | "tool_calls" => "tool_use"
  | _ => finishReason

def generateStopBlock (index : ℤ) : ClaudeResponse := .contentBlockStop index

namespace ClaudeStreamToolCall

def start (tool : ClaudeStreamToolCall) : ClaudeStreamToolCall × List ClaudeResponse :=
  ({ tool with started := true, pendingArguments := "" },
    .contentBlockStart tool.blockIndex (.toolUse tool.id tool.name) ::
      if tool.pendingArguments ≠ "" then [.contentBlockDelta tool.blockIndex (.inputJson tool.pendingArguments)] else [])

/-- One tool in the loop of `startPendingToolBlocks`. -/
def startPending (uuid : ℤ → String) (tool : ClaudeStreamToolCall) : ClaudeStreamToolCall × List ClaudeResponse :=
  if tool.started ∨ tool.name = "" then (tool, [])
  else { tool with id := if tool.id = "" then s!"toolu_{uuid tool.blockIndex}" else tool.id }.start

/-- A tool with what a delta brings. -/
def extend (tool : ClaudeStreamToolCall) (toolCall : ToolCallResponse) : ClaudeStreamToolCall :=
  { tool with
    id := if tool.id = "" then trimSpace toolCall.id else tool.id
    name := if tool.name = "" then trimSpace toolCall.name else tool.name
    pendingArguments := if tool.started then tool.pendingArguments else tool.pendingArguments ++ toolCall.arguments }

/-- What is sent for a tool after a delta with these arguments. -/
def send (tool : ClaudeStreamToolCall) (arguments : String) : ClaudeStreamToolCall × List ClaudeResponse :=
  if tool.started = false ∧ tool.id ≠ "" ∧ tool.name ≠ "" then tool.start
  else if tool.started ∧ arguments ≠ "" then (tool, [.contentBlockDelta tool.blockIndex (.inputJson arguments)])
  else (tool, [])

end ClaudeStreamToolCall

namespace ClaudeConvertInfo

variable (s : ClaudeConvertInfo) (uuid : ℤ → String)

def stopOpenBlocks : List ClaudeResponse :=
  match s.lastMessagesType with
  | .text | .thinking => [generateStopBlock s.index]
  | .tools =>
    if s.toolCalls = [] then
      (List.range (s.toolCallMaxIndexOffset + 1).toNat).map fun offset => generateStopBlock (s.toolCallBaseIndex + offset)
    else (s.toolCalls.filter ClaudeStreamToolCall.started).map fun tool => generateStopBlock tool.blockIndex
  | .none => []

def startPendingToolBlocks : ClaudeConvertInfo × List ClaudeResponse :=
  if s.lastMessagesType ≠ .tools then (s, [])
  else ({ s with toolCalls := s.toolCalls.map fun tool => (tool.startPending uuid).1 },
    s.toolCalls.flatMap fun tool => (tool.startPending uuid).2)

def appendStopOpenBlocks : Emitter ClaudeConvertInfo ClaudeResponse :=
  andThen (fun s => s.startPendingToolBlocks uuid) fun s => (s, s.stopOpenBlocks)

/-- The next slot for a block, after the open ones. -/
def advance : ClaudeConvertInfo :=
  match s.lastMessagesType with
  | .tools =>
    { s with
      index := s.toolCallBaseIndex + s.toolCalls.length
      toolCallBaseIndex := 0, toolCallMaxIndexOffset := 0, toolCalls := [], toolCallByIndex := .empty, toolCallByID := .empty
      lastMessagesType := .none }
  | _ => { s with index := s.index + 1, lastMessagesType := .none }

def stopOpenBlocksAndAdvance : Emitter ClaudeConvertInfo ClaudeResponse := fun s =>
  if s.lastMessagesType = .none then (s, [])
  else andThen (appendStopOpenBlocks uuid) (fun s => (s.advance, [])) s

/-- A text or thinking block is started unless one of its type is open. -/
def enterBlock (type : LastMessageType) (block : ContentBlock) : Emitter ClaudeConvertInfo ClaudeResponse := fun s =>
  if s.lastMessagesType = type then (s, [])
  else andThen (stopOpenBlocksAndAdvance uuid)
    (fun s => ({ s with lastMessagesType := type }, [.contentBlockStart s.index block])) s

def appendBlockDeltas (type : LastMessageType) (block : ContentBlock) (deltas : List BlockDelta) :
    Emitter ClaudeConvertInfo ClaudeResponse :=
  andThen (enterBlock uuid type block) fun s => (s, deltas.map (.contentBlockDelta s.index))

def appendCitationDeltas (raw : RawJson (List Annotation)) : Emitter ClaudeConvertInfo ClaudeResponse :=
  onlyIf (chatAnnotationsToClaude raw ≠ [])
    (appendBlockDeltas uuid .text .text ((chatAnnotationsToClaude raw).map .citations))

def enterTools : Emitter ClaudeConvertInfo ClaudeResponse := fun s =>
  if s.lastMessagesType = .tools then (s, [])
  else andThen (stopOpenBlocksAndAdvance uuid) (fun s => ({ s with
    toolCallBaseIndex := s.index, toolCallMaxIndexOffset := 0, toolCalls := [], toolCallByIndex := .empty
    toolCallByID := .empty, lastMessagesType := .tools }, [])) s

def findTool (toolIndex : ℤ) (incomingID : String) : Option ℕ :=
  let byID := if incomingID ≠ "" then (s.toolCallByID.get? incomingID).map Prod.snd else none
  (byID.or ((s.toolCallByIndex.get? toolIndex).map Prod.snd)).filter fun n =>
    match s.toolCalls[n]? with
    | none => false
    | some tool => incomingID = "" ∨ tool.id = "" ∨ tool.id = incomingID

/-- The position of the tool for a delta, which may be a new one. -/
def resolveTool (toolIndex : ℤ) (incomingID : String) : ClaudeConvertInfo × ℕ :=
  match s.findTool toolIndex incomingID with
  | some n => (s, n)
  | none => ({ s with toolCalls := s.toolCalls ++ [{ blockIndex := s.toolCallBaseIndex + s.toolCalls.length }] },
      s.toolCalls.length)

/-- A delta for the tool at a position. -/
def continueToolAt (toolIndex : ℤ) (toolCall : ToolCallResponse) (n : ℕ) : ClaudeConvertInfo × List ClaudeResponse :=
  match s.toolCalls[n]? with
  | none => (s, [])
  | some tool =>
    let sent := (tool.extend toolCall).send toolCall.arguments
    ({ s with
      toolCalls := s.toolCalls.set n sent.1
      toolCallByIndex := s.toolCallByIndex.put (toolIndex, n)
      toolCallByID := if tool.id = "" ∧ trimSpace toolCall.id ≠ "" then s.toolCallByID.put (trimSpace toolCall.id, n)
        else s.toolCallByID }, sent.2)

/-- One delta in the loop over the tool calls, at its position in the list if it has no index. -/
def appendToolCall (call : ToolCallResponse × ℕ) : Emitter ClaudeConvertInfo ClaudeResponse := fun s =>
  let toolIndex := call.1.index.getD call.2
  let resolved := s.resolveTool toolIndex (trimSpace call.1.id)
  resolved.1.continueToolAt toolIndex call.1 resolved.2

def appendToolCalls (toolCalls : List ToolCallResponse) : Emitter ClaudeConvertInfo ClaudeResponse :=
  andThen (enterTools uuid) (andThen (each appendToolCall toolCalls.zipIdx) fun s => ({ s with
    toolCallMaxIndexOffset := s.toolCalls.length - 1
    index := if s.toolCalls = [] then s.index else s.toolCallBaseIndex + s.toolCalls.length - 1 }, []))

def appendDelta (delta : ChoiceDelta) : Emitter ClaudeConvertInfo ClaudeResponse :=
  if delta.toolCalls ≠ [] then appendToolCalls uuid delta.toolCalls
  else if delta.getReasoningContent ≠ "" then
    appendBlockDeltas uuid .thinking .thinking [.thinking delta.getReasoningContent]
  else if delta.getContentString ≠ "" then appendBlockDeltas uuid .text .text [.text delta.getContentString]
  else fun s => (s, [])

def clientVisibleClaudeStreamUsage (incoming : Option Usage) : ClaudeConvertInfo × Option Usage :=
  match incoming with
  | none => (s, s.usage)
  | some u => ({ s with usage := mergeUsageNonZero s.usage (some u) },
      if s.usage.isSome then mergeUsageNonZero s.usage (some u) else some u)

/-- `message_delta` and `message_stop`, after all blocks are stopped. -/
def terminate (stopReason : String) (usage : Option Usage) : Emitter ClaudeConvertInfo ClaudeResponse :=
  andThen (appendStopOpenBlocks uuid) fun s => ({ s with done := true }, [.messageDelta stopReason usage, .messageStop])

/-- `message_start`, for the first chunk. -/
def startMessage (estimatePromptTokens : ℤ) (chunk : ChatCompletionsStreamResponse) :
    Emitter ClaudeConvertInfo ClaudeResponse := fun s =>
  match chunk.usage.filter Usage.hasTokens with
  | none => (s, [.messageStart chunk.id chunk.model estimatePromptTokens])
  | some u => ({ s with usage := mergeUsageNonZero s.usage (some u) },
      [.messageStart chunk.id chunk.model u.promptTokens])

/-- A chunk without choices: the end, if there is a usage. -/
def endChunk (chunk : ChatCompletionsStreamResponse) : Emitter ClaudeConvertInfo ClaudeResponse := fun s =>
  let visible := s.clientVisibleClaudeStreamUsage chunk.usage
  match visible.2 with
  | none => (visible.1, [])
  | some u =>
    let stopReason := stopReasonOpenAI2Claude s.finishReason
    terminate uuid (if stopReason = "" then "end_turn" else stopReason) (some u) visible.1

/-- The end of a chunk with a finish reason: the end of the message, if there is a usage. -/
def finishChunk (chunk : ChatCompletionsStreamResponse) : Emitter ClaudeConvertInfo ClaudeResponse := fun s =>
  let visible := s.clientVisibleClaudeStreamUsage chunk.usage
  match visible.2 with
  | none => (visible.1, [])
  | some u => terminate uuid (stopReasonOpenAI2Claude s.finishReason) (some u) visible.1

def choiceChunk (chunk : ChatCompletionsStreamResponse) (choice : StreamChoice) :
    Emitter ClaudeConvertInfo ClaudeResponse :=
  andThen (fun s => ({ s with finishReason :=
      if choice.finishReason.getD "" ≠ "" then choice.finishReason.getD "" else s.finishReason }, []))
    (andThen (appendDelta uuid choice.delta)
      (andThen (appendCitationDeltas uuid choice.delta.annotations)
        (onlyIf (choice.finishReason.getD "" ≠ "") (finishChunk uuid chunk))))

/-- What a chunk brings after `message_start`. -/
def convertBody (chunk : ChatCompletionsStreamResponse) : Emitter ClaudeConvertInfo ClaudeResponse :=
  match chunk.choices with
  | [] => endChunk uuid chunk
  | choice :: _ => choiceChunk uuid chunk choice

end ClaudeConvertInfo

open ClaudeConvertInfo

/-- `StreamResponseOpenAI2Claude`, for the send count and the chunk of a call. -/
def streamResponseOpenAI2Claude (uuid : ℤ → String) (estimatePromptTokens : ℤ) (call : ℕ × ChatCompletionsStreamResponse) :
    Emitter ClaudeConvertInfo ClaudeResponse := fun s =>
  if s.done then (s, [])
  else andThen (onlyIf (call.1 = 1) (startMessage estimatePromptTokens call.2)) (convertBody uuid call.2) s

def finalizeStreamResponseOpenAI2Claude (uuid : ℤ → String) : Emitter ClaudeConvertInfo ClaudeResponse := fun s =>
  if s.done then (s, [])
  else
    let stopReason := stopReasonOpenAI2Claude s.finishReason
    terminate uuid (if stopReason = "" then "end_turn" else stopReason) (s.clientVisibleClaudeStreamUsage none).2 s

end Desktop2Stereo
