import Desktop2Stereo.Model.ChatRequests

/-!
# Desktop2Stereo: Responses requests

The two conversions between Chat and Responses requests in `relaykit/relayconvert`. Fields that are read as text are
strings here, the other JSON values are opaque. `α` and `β` have the options of a request that are not followed here
(sampling, reasoning, response format); their conversion may reject a request.
-/

namespace Desktop2Stereo.Requests

open GoText

/-! ## Responses requests -/

/-- A decoded JSON value: none or `null`, a string, or another value. -/
inductive RawValue
  | absent
  | string (s : String)
  | other (json : String)
  deriving DecidableEq

/-- `responsesArgumentsString`, `responseToolOutputToChatContent` and `responsesJSONString`: a string as it is, another
value as JSON. -/
def RawValue.toText : RawValue → String
  | .absent => ""
  | .string s => s
  | .other json => json

/-- A part of the content of an item; `json` has the fields beside the type and the text. -/
inductive ContentPart
  | object (type text json : String)
  | other (json : String)
  deriving DecidableEq

inductive ItemContent
  | absent
  | string (s : String)
  | parts (l : List ContentPart)
  | other (json : String)
  deriving DecidableEq

structure ResponsesInputItem where
  type : String := ""
  role : String := ""
  content : ItemContent := .absent
  callID : String := ""
  id : String := ""
  name : String := ""
  arguments : RawValue := .absent
  input : RawValue := .absent
  output : RawValue := .absent
  deriving DecidableEq

inductive ResponsesInput
  | absent
  | string (s : String)
  | array (items : List ResponsesInputItem)
  | malformed (err : String)
  | other (jsonType : String)
  deriving DecidableEq

/-- A tool of a Responses request; `json` is the whole object. -/
structure ResponsesTool where
  type : String
  name : String := ""
  description : String := ""
  parameters : Option String := none
  json : String := ""
  deriving DecidableEq

inductive ResponsesTools
  | absent
  | array (tools : List ResponsesTool)
  | malformed (err : String)
  deriving DecidableEq

/-- A tool choice that is an object, in either shape: the name of the function beside the type, or inside `function`. -/
structure ToolChoiceObject where
  type : String
  name : String := ""
  functionName : String := ""
  rest : String := ""
  deriving DecidableEq

inductive ToolChoice
  | absent
  | mode (s : String)
  | object (o : ToolChoiceObject)
  | other (json : String)
  deriving DecidableEq

/-- `dto.OpenAIResponsesRequest` -/
structure ResponsesRequest (β : Type) where
  model : String
  input : ResponsesInput := .absent
  instructions : RawValue := .absent
  tools : ResponsesTools := .absent
  toolChoice : ToolChoice := .absent
  maxOutputTokens : Option ℕ := none
  conversation : Option String := none
  previousResponseID : String := ""
  prompt : Option String := none
  contextManagement : Option String := none
  options : β

/-- A tool of a Chat request. -/
structure ToolDefinition where
  type : String
  name : String := ""
  description : String := ""
  parameters : Option String := none
  custom : Option String := none
  deriving DecidableEq

/-- `dto.GeneralOpenAIRequest` -/
structure ChatRequest (α : Type) where
  model : String
  messages : List Message
  n : Option ℤ := none
  tools : Option (List ToolDefinition) := none
  toolChoice : ToolChoice := .absent
  maxTokens : Option ℕ := none
  maxCompletionTokens : Option ℕ := none
  options : α

/-! ## From Responses to Chat -/

def appendToolCallToLastAssistant (messages : List Message) (toolCall : ToolCallRequest) : List Message :=
  match messages.getLast? with
  | some last =>
    if last.role = "assistant" then
      messages.dropLast ++ [{ last with toolCalls := some (last.parseToolCalls ++ [toolCall]) }]
    else messages ++ [{ role := "assistant", toolCalls := some [toolCall] }]
  | none => [{ role := "assistant", toolCalls := some [toolCall] }]

def responsesCallID (item : ResponsesInputItem) : String :=
  if trimSpace item.callID ≠ "" then trimSpace item.callID else trimSpace item.id

def responsesFunctionCallItemToChatToolCall (item : ResponsesInputItem) : Except String ToolCallRequest :=
  if trimSpace item.name = "" then .error "function_call item is missing name"
  else .ok {
    id := responsesCallID item, type := "function", name := trimSpace item.name,
    arguments := item.arguments.toText }

def responsesCustomToolCallItemToChatToolCall (item : ResponsesInputItem) : ToolCallRequest where
  id := responsesCallID item
  type := "custom"
  name := trimSpace item.name
  arguments := item.input.toText

def ResponsesInputItem.chatRole (item : ResponsesInputItem) : String :=
  if trimSpace item.role = "" then "user" else trimSpace item.role

section Content

variable (payload : String → String → String)

/-- The part of a Chat message, where `payload` has what becomes of the fields beside the type. -/
def chatPart : ContentPart → MediaContent
  | .other json => .media "" json
  | .object type text json =>
    match trimSpace type with
    | "input_text" | "output_text" | "text" => .text text
    | "input_image" => .media "image_url" (payload "image_url" json)
    | "input_file" => .media "file" (payload "file" json)
    | "input_audio" => .media "input_audio" (payload "input_audio" json)
    | "input_video" => .media "video_url" (payload "video_url" json)
    | _ => .media type json

def responsesContentPartsToChatContent (parts : List ContentPart) : MessageContent :=
  let chatParts := parts.map (chatPart payload)
  if chatParts.all (·.text?.isSome) then .string (String.join (chatParts.filterMap (·.text?))) else .parts chatParts

def responsesInputContentToChatContent : ItemContent → MessageContent
  | .absent => .string ""
  | .string s => .string s
  | .parts l => responsesContentPartsToChatContent payload l
  | .other json => .other json

/-- One item after the messages made so far. -/
def responsesInputItemToChatMessages (messages : List Message) (item : ResponsesInputItem) :
    Except String (List Message) :=
  match trimSpace item.type with
  | "function_call" =>
    (responsesFunctionCallItemToChatToolCall item).map (appendToolCallToLastAssistant messages)
  | "custom_tool_call" =>
    .ok (appendToolCallToLastAssistant messages (responsesCustomToolCallItemToChatToolCall item))
  | "function_call_output" =>
    .ok (messages ++ [{ role := "tool", toolCallID := trimSpace item.callID, content := .string item.output.toText }])
  | _ =>
    .ok (messages ++ [{ role := item.chatRole, content := responsesInputContentToChatContent payload item.content }])

def instructionsMessages (instructions : RawValue) : List Message :=
  if trimSpace instructions.toText ≠ "" then [{ role := "system", content := .string instructions.toText }] else []

def responsesRequestMessagesToChat (instructions : RawValue) : ResponsesInput → Except String (List Message)
  | .absent => .ok (instructionsMessages instructions)
  | .string s => .ok (instructionsMessages instructions ++ [{ role := "user", content := .string s }])
  | .array items => items.foldlM (responsesInputItemToChatMessages payload) (instructionsMessages instructions)
  | .malformed err => .error ("invalid input array: " ++ err)
  | .other jsonType => .error ("unsupported responses input type \"" ++ jsonType ++ "\"")

end Content

def responsesToolToChat (tool : ResponsesTool) : ToolDefinition :=
  if trimSpace tool.type = "function" then
    { type := "function", name := trimSpace tool.name, description := tool.description,
      parameters := tool.parameters }
  else { type := trimSpace tool.type, custom := some tool.json }

def responsesRequestToolsToChat : ResponsesTools → Except String (Option (List ToolDefinition))
  | .absent => .ok none
  | .array tools => .ok (some (tools.map responsesToolToChat))
  | .malformed err => .error ("invalid tools: " ++ err)

def responsesRequestToolChoiceToChat : ToolChoice → Except String ToolChoice
  | .absent => .ok .absent
  | .mode s => .ok (.mode s)
  | .object o =>
    if o.type = "function" ∧ trimSpace o.name ≠ "" then
      .ok (.object { type := "function", functionName := trimSpace o.name })
    else .ok (.object o)
  | .other json => .error ("invalid tool_choice: " ++ json)

section Requests

variable {α β : Type}

/-- The stateful fields that are set. -/
def unsupportedFields (req : ResponsesRequest β) : List String :=
  (if req.conversation.isSome then ["conversation"] else []) ++
    (if trimSpace req.previousResponseID ≠ "" then ["previous_response_id"] else []) ++
    (if req.prompt.isSome then ["prompt"] else []) ++
    if req.contextManagement.isSome then ["context_management"] else []

def validateResponsesRequestChatUnsupportedFields (req : ResponsesRequest β) : Except String Unit :=
  if unsupportedFields req ≠ [] then
    .error ("responses to chat conversion does not support stateful fields: " ++
      String.intercalate ", " (unsupportedFields req))
  else .ok ()

def responsesRequestToChatCompletionsRequest (payload : String → String → String)
    (chatOptions : String → β → Except String α) (req : ResponsesRequest β) : Except String (ChatRequest α) := do
  if req.model = "" then throw "model is required"
  validateResponsesRequestChatUnsupportedFields req
  let messages ← responsesRequestMessagesToChat payload req.instructions req.input
  let tools ← responsesRequestToolsToChat req.tools
  let toolChoice ← responsesRequestToolChoiceToChat req.toolChoice
  let options ← chatOptions req.model req.options
  return {
    model := req.model, messages := messages, tools := tools, toolChoice := toolChoice,
    maxCompletionTokens := req.maxOutputTokens, options := options }

end Requests

/-! ## From Chat to Responses -/

/-- The items of the calls of an assistant message. A call without an id or a name, or of another type, is left out. -/
def functionCallItem (tc : ToolCallRequest) : Option ResponsesInputItem :=
  if trimSpace tc.id = "" then none
  else if tc.type ≠ "" ∧ tc.type ≠ "function" then none
  else if trimSpace tc.name = "" then none
  else some {
    type := "function_call", callID := tc.id, name := trimSpace tc.name, arguments := .string tc.arguments }

section Items

variable (encode : String → String → String) (marshal : MessageContent → String)

/-- The part of an item, where `encode` has what becomes of the payload. Other types keep their type only. -/
def responsesPart (role : String) : MediaContent → ContentPart
  | .text s => .object (if role = "assistant" then "output_text" else "input_text") s ""
  | .media type json =>
    match type with
    | "image_url" => .object "input_image" "" (encode "image_url" json)
    | "input_audio" => .object "input_audio" "" (encode "input_audio" json)
    | "file" => .object "input_file" "" (encode "file" json)
    | "video_url" => .object "input_video" "" (encode "video_url" json)
    | _ => .object type "" ""

def itemContent (role : String) (msg : Message) : ItemContent :=
  match msg.content with
  | .absent => .string ""
  | .string s => .string s
  | _ => .parts (msg.parseContent.map (responsesPart encode role))

def toolOutput (msg : Message) : String :=
  match msg.content with
  | .absent => ""
  | .string s => s
  | content => marshal content

def inputItemsOf (msg : Message) : List ResponsesInputItem :=
  let role := trimSpace msg.role
  if role = "" then []
  else if role = "tool" ∨ role = "function" then
    if trimSpace msg.toolCallID = "" then
      [{ role := "user", content := .string ("[tool_output_missing_call_id] " ++ toolOutput marshal msg) }]
    else [{
      type := "function_call_output", callID := trimSpace msg.toolCallID,
      output := .string (toolOutput marshal msg) }]
  else if role = "system" ∨ role = "developer" then []
  else { role := role, content := itemContent encode role msg } ::
    if role = "assistant" then msg.parseToolCalls.filterMap functionCallItem else []

end Items

/-- The text of a system message: the string, or the texts of the parts that are not blank on lines of their own. -/
def systemText (msg : Message) : String :=
  match msg.content with
  | .absent => ""
  | .string s => trimSpace s
  | _ => trimSpace (String.intercalate "\n"
      ((msg.parseContent.filterMap (·.text?)).filter fun s => trimSpace s ≠ ""))

def instructionsPart (msg : Message) : Option String :=
  if trimSpace msg.role = "system" ∨ trimSpace msg.role = "developer" then
    if systemText msg ≠ "" then some (systemText msg) else none
  else none

def instructionsOf (messages : List Message) : RawValue :=
  let instructionsParts := messages.filterMap instructionsPart
  if instructionsParts ≠ [] then .string (String.intercalate "\n\n" instructionsParts) else .absent

/-- A tool of another type keeps its shape, `marshalTool`. -/
def chatToolToResponses (marshalTool : ToolDefinition → String) (tool : ToolDefinition) : ResponsesTool :=
  if tool.type = "function" then
    { type := "function", name := tool.name, description := tool.description, parameters := tool.parameters }
  else { type := tool.type, json := marshalTool tool }

def chatToolsToResponses (marshalTool : ToolDefinition → String) : Option (List ToolDefinition) → ResponsesTools
  | none => .absent
  | some tools => .array (tools.map (chatToolToResponses marshalTool))

def chatToolChoiceToResponses : ToolChoice → ToolChoice
  | .object o =>
    if o.type = "function" then
      if o.name ≠ "" then .object { type := "function", name := o.name }
      else if o.functionName ≠ "" then .object { type := "function", name := o.functionName }
      else .object o
    else .object o
  | choice => choice

/-- The maximum is set if either field is. -/
def maxOutputTokensOf (maxTokens maxCompletionTokens : Option ℕ) : Option ℕ :=
  if maxTokens.isSome ∨ maxCompletionTokens.isSome then
    some (match maxCompletionTokens with
      | some n => n
      | none => maxTokens.getD 0)
  else none

def chatCompletionsRequestToResponsesRequest {α β : Type} (encode : String → String → String)
    (marshal : MessageContent → String) (marshalTool : ToolDefinition → String)
    (responsesOptions : ChatRequest α → Except String β) (req : ChatRequest α) :
    Except String (ResponsesRequest β) :=
  if req.model = "" then .error "model is required"
  else if req.n.getD 1 > 1 then .error "n>1 is not supported in responses compatibility mode"
  else (responsesOptions req).map fun options => {
    model := req.model
    input := .array (req.messages.flatMap (inputItemsOf encode marshal))
    instructions := instructionsOf req.messages
    tools := chatToolsToResponses marshalTool req.tools
    toolChoice := chatToolChoiceToResponses req.toolChoice
    maxOutputTokens := maxOutputTokensOf req.maxTokens req.maxCompletionTokens
    options := options }

end Desktop2Stereo.Requests
