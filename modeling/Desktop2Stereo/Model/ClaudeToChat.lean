import Desktop2Stereo.Lib.GoText

/-!
# Desktop2Stereo: from Claude messages to Chat Completions

The translation of a whole Claude message and the one of its stream. The state of the stream maps the indices of the
content blocks to the dense indices of the tool calls. A citation is given decoded; `input` is the JSON text of a
tool's input.
-/

namespace Desktop2Stereo.ClaudeToChat

open GoText

/-! ## Citations -/

structure ClaudeCitation where
  url : String := ""
  title : String := ""
  citedText : String := ""
  encryptedIndex : String := ""
  deriving DecidableEq

structure ChatAnnotation where
  url : String
  title : Option String := none
  citedText : Option String := none
  startIndex : Option ℕ := none
  endIndex : Option ℕ := none
  encryptedIndex : Option String := none
  deriving DecidableEq

/-- The number of runes before the first occurrence. -/
def indexOf (needle : List Char) : List Char → Option ℕ
  | [] => if needle = [] then some 0 else none
  | c :: cs => if needle <+: c :: cs then some 0 else (indexOf needle cs).map (· + 1)

def nonEmpty (s : String) : Option String := if s = "" then none else some s

def claudeCitationToChat (text : String) (textOffset : ℕ) (c : ClaudeCitation) : Option ChatAnnotation :=
  let url := trimSpace c.url
  if url = "" then none
  else
    let start := if c.citedText = "" then none else (indexOf c.citedText.toList text.toList).map (textOffset + ·)
    some { url := url
           title := nonEmpty (trimSpace c.title)
           citedText := nonEmpty c.citedText
           startIndex := start
           endIndex := start.map (· + c.citedText.toList.length)
           encryptedIndex := nonEmpty c.encryptedIndex }

/-- The annotations of the citations of a block, none where they are malformed. -/
def claudeCitationsToChat (citations : Except String (List ClaudeCitation)) (text : String) (textOffset : ℕ) :
    List ChatAnnotation :=
  match citations with
  | .ok l => l.filterMap (claudeCitationToChat text textOffset)
  | .error _ => []

/-! ## Messages and events -/

/-- A content block, or the delta of a stream event. -/
structure ClaudeMediaMessage where
  type : String
  text : Option String := none
  thinking : Option String := none
  partialJson : Option String := none
  stopReason : Option String := none
  id : String := ""
  name : String := ""
  input : String := "null"
  citations : Except String (List ClaudeCitation) := .ok []
  citation : Option ClaudeCitation := none

inductive ClaudeEventType where
  | messageStart
  | contentBlockStart
  | contentBlockDelta
  | contentBlockStop
  | messageDelta
  | messageStop
  | other (type : String)
  deriving DecidableEq

structure ClaudeMessage where
  id : String
  model : String
  deriving DecidableEq

structure ClaudeEvent where
  type : ClaudeEventType
  model : String := ""
  index : Option ℤ := none
  message : Option ClaudeMessage := none
  contentBlock : Option ClaudeMediaMessage := none
  delta : Option ClaudeMediaMessage := none

structure ClaudeResponse where
  id : String := ""
  model : String := ""
  content : List ClaudeMediaMessage
  stopReason : String := ""

structure ToolCallResponse where
  index : Option ℤ := none
  id : String := ""
  type : String := "function"
  name : String := ""
  arguments : String := ""
  deriving DecidableEq

structure ChatDelta where
  content : Option String := none
  role : String := ""
  reasoningContent : Option String := none
  toolCalls : List ToolCallResponse := []
  annotations : List ChatAnnotation := []
  deriving DecidableEq

/-- A chunk with its single choice. -/
structure ChatChunk where
  id : String := ""
  object : String := "chat.completion.chunk"
  model : String
  delta : ChatDelta
  finishReason : Option String := none
  deriving DecidableEq

/-- `ClaudeStopReasonToOpenAIFinishReason` -/
def stopReasonClaudeToOpenAI (reason : String) : String :=
  let r := toLower reason
  if r = "stop_sequence" ∨ r = "end_turn" then "stop"
  else if r = "max_tokens" then "length"
  else if r = "tool_use" then "tool_calls"
  else if r = "pause_turn" then "length"
  else if r = "refusal" then "content_filter"
  else reason

/-! ## The stream -/

def startDelta (index : ℤ) (block : ClaudeMediaMessage) : ChatDelta :=
  if block.type = "tool_use" then
    { toolCalls := [{ index := some index, id := block.id, name := block.name }] }
  else if block.type = "text" then
    match block.text with
    | some text => { content := some text, annotations := claudeCitationsToChat block.citations text 0 }
    | none => {}
  else {}

def blockDelta (index : ℤ) (delta : ClaudeMediaMessage) : ChatDelta :=
  if delta.type = "input_json_delta" then
    { toolCalls := [{ index := some index, arguments := delta.partialJson.getD "" }] }
  else if delta.type = "signature_delta" then { content := delta.text, reasoningContent := some "\n" }
  else if delta.type = "thinking_delta" then { content := delta.text, reasoningContent := delta.thinking }
  else if delta.type = "citations_delta" then
    { content := delta.text
      annotations := claudeCitationsToChat (.ok delta.citation.toList) "" 0 }
  else { content := delta.text }

def streamResponseClaude2OpenAI (e : ClaudeEvent) : Option ChatChunk :=
  let index := e.index.getD 0
  match e.type with
  | .messageStart =>
    some { id := (e.message.map (·.id)).getD "", model := (e.message.map (·.model)).getD e.model
           delta := { content := some "", role := "assistant" } }
  | .contentBlockStart => e.contentBlock.map fun block => { model := e.model, delta := startDelta index block }
  | .contentBlockDelta => some { model := e.model, delta := (e.delta.map (blockDelta index)).getD {} }
  | .messageDelta =>
    let reason := (e.delta.bind (·.stopReason)).map stopReasonClaudeToOpenAI
    some { model := e.model, delta := {}, finishReason := reason.filter (· ≠ "null") }
  | .contentBlockStop | .messageStop | .other _ => none

structure ClaudeToChatStreamState where
  toolIndexByContentBlock : ℤ → Option ℕ
  blockTypeByContentBlock : ℤ → Option String
  nextToolIndex : ℕ

def newClaudeToChatStreamState : ClaudeToChatStreamState := ⟨fun _ => none, fun _ => none, 0⟩

def isClaudeHostedToolStreamBlock (blockType : String) : Bool :=
  blockType = "server_tool_use" || blockType = "mcp_tool_use" || blockType = "web_search_tool_result" ||
    blockType = "mcp_tool_result" || blockType = "code_execution_tool_result" || blockType = "web_fetch_tool_result"

/-- The tool index of a block that starts, a fresh one where it has none. -/
def ClaudeToChatStreamState.assignTool (s : ClaudeToChatStreamState) (index : ℤ) : ℕ × ClaudeToChatStreamState :=
  match s.toolIndexByContentBlock index with
  | some toolIndex => (toolIndex, s)
  | none =>
    (s.nextToolIndex,
      { s with
        toolIndexByContentBlock := Function.update s.toolIndexByContentBlock index (some s.nextToolIndex)
        nextToolIndex := s.nextToolIndex + 1 })

def ClaudeToChatStreamState.startBlock (s : ClaudeToChatStreamState) (e : ClaudeEvent) (block : ClaudeMediaMessage) :
    Except String (ClaudeToChatStreamState × Option ChatChunk) :=
  let blockType := trimSpace block.type
  if blockType = "" then .ok (s, streamResponseClaude2OpenAI e)
  else
    match e.index with
    | none => .error "Claude content block stream start is missing index"
    | some index =>
      let s := { s with blockTypeByContentBlock := Function.update s.blockTypeByContentBlock index (some blockType) }
      if blockType = "tool_use" then
        let (toolIndex, s) := s.assignTool index
        .ok (s, streamResponseClaude2OpenAI { e with index := some toolIndex })
      else if isClaudeHostedToolStreamBlock blockType then .ok (s, none)
      else .ok (s, streamResponseClaude2OpenAI e)

def ClaudeToChatStreamState.inputDelta (s : ClaudeToChatStreamState) (e : ClaudeEvent) (delta : ClaudeMediaMessage) :
    Except String (ClaudeToChatStreamState × Option ChatChunk) :=
  match e.index with
  | none => .error "Claude tool-use stream delta is missing content block index"
  | some index =>
    if delta.partialJson = none then .error "Claude tool-use stream delta is missing partial JSON"
    else
      match s.toolIndexByContentBlock index with
      | some toolIndex => .ok (s, streamResponseClaude2OpenAI { e with index := some toolIndex })
      | none =>
        if isClaudeHostedToolStreamBlock ((s.blockTypeByContentBlock index).getD "") then .ok (s, none)
        else .error s!"Claude tool-use stream delta references unknown content block index {index}"

def ClaudeToChatStreamState.convertChunk (s : ClaudeToChatStreamState) (e : ClaudeEvent) :
    Except String (ClaudeToChatStreamState × Option ChatChunk) :=
  match e.type, e.contentBlock, e.delta with
  | .contentBlockStart, some block, _ => s.startBlock e block
  | .contentBlockDelta, _, some delta =>
    if delta.type = "input_json_delta" then s.inputDelta e delta else .ok (s, streamResponseClaude2OpenAI e)
  | .contentBlockStop, _, _ =>
    match e.index with
    | some index =>
      .ok ({ s with blockTypeByContentBlock := Function.update s.blockTypeByContentBlock index none },
        streamResponseClaude2OpenAI e)
    | none => .ok (s, streamResponseClaude2OpenAI e)
  | _, _, _ => .ok (s, streamResponseClaude2OpenAI e)

/-! ## A whole message -/

structure ChatMessage where
  content : String
  reasoningContent : Option String := none
  toolCalls : List ToolCallResponse := []
  annotations : List ChatAnnotation := []
  deriving DecidableEq

structure ChatResponse where
  id : String
  object : String := "chat.completion"
  model : String
  message : ChatMessage
  finishReason : String
  deriving DecidableEq

/-- What the loop over the content has gathered. -/
structure Gathered where
  text : String := ""
  tools : List ToolCallResponse := []
  thinking : String := ""
  annotations : List ChatAnnotation := []

def Gathered.add (g : Gathered) (m : ClaudeMediaMessage) : Gathered :=
  if m.type = "tool_use" then
    { g with tools := g.tools ++ [{ id := m.id, name := m.name, arguments := m.input }] }
  else if m.type = "thinking" then { g with thinking := m.thinking.getD g.thinking }
  else if m.type = "text" then
    let text := m.text.getD ""
    { g with
      text := g.text ++ text
      annotations := g.annotations ++ claudeCitationsToChat m.citations text g.text.toList.length }
  else g

def responseClaude2OpenAI (r : ClaudeResponse) : ChatResponse :=
  let responseThinking := (r.content.head?.bind (·.thinking)).getD ""
  let g := r.content.foldl Gathered.add {}
  { id := r.id
    model := r.model
    finishReason := stopReasonClaudeToOpenAI r.stopReason
    message :=
      { content := g.text
        annotations := g.annotations
        toolCalls := g.tools
        reasoningContent := nonEmpty g.thinking <|> nonEmpty responseThinking } }

end Desktop2Stereo.ClaudeToChat
