import Desktop2Stereo.Model.ChatRequests

/-!
# Desktop2Stereo: messages of Claude requests

The two conversions of the messages of a request in `relaykit/relayconvert`. What is read of the rest of a request
(model, tools, sampling, reasoning) decides only whether it is accepted.
-/

namespace Desktop2Stereo.Requests

open GoText

/-! ## Claude messages -/

/-- `dto.ClaudeMediaMessage`: an element of a content, where `α` has the JSON objects of arguments. -/
inductive ClaudeMediaMessage (α : Type)
  | text (s : String)
  | file (type mediaType data : String)
  | toolUse (id name : String) (input : α)
  | toolResult (toolUseID name : String) (content : MessageContent)
  deriving DecidableEq

inductive ClaudeContent (α : Type)
  | string (s : String)
  | blocks (l : List (ClaudeMediaMessage α))
  deriving DecidableEq

structure ClaudeMessage (α : Type) where
  role : String
  content : ClaudeContent α
  deriving DecidableEq

variable {α : Type}

/-- The content as an array, as it is made before a result is appended. -/
def ClaudeContent.toBlocks : ClaudeContent α → List (ClaudeMediaMessage α)
  | .string s => [.text s]
  | .blocks l => l

/-! ## From Chat to Claude -/

def normalizeRole (message : Message) : String :=
  if message.role = "" then "user"
  else if message.role = "developer" then "system"
  else if message.role = "function" ∨ message.role = "tool" then
    if message.toolCallID ≠ "" then "tool" else "user"
  else if message.role = "system" ∨ message.role = "user" ∨ message.role = "assistant" then message.role
  else "user"

def fmtMessage (message : Message) : Message where
  role := normalizeRole message
  content := message.content
  toolCallID := if normalizeRole message = "tool" then message.toolCallID else ""
  toolCalls := if normalizeRole message = "assistant" then message.toolCalls else none

/-- Nothing is shown as three dots. -/
def MessageContent.shown : MessageContent → MessageContent
  | .absent => .string "..."
  | .string s => .string (if s = "" then "..." else s)
  | c => c

/-- The last message takes up the next one: both have the same role and string contents. -/
def Merges (lastMessage message : Message) : Prop :=
  lastMessage.role = normalizeRole message ∧ lastMessage.role ≠ "tool" ∧ lastMessage.isStringContent = true ∧
    message.isStringContent = true

instance (lastMessage message : Message) : Decidable (Merges lastMessage message) := by
  unfold Merges
  infer_instance

/-- The body of the first loop, on `formatMessages` and `lastMessage`. -/
def formatStep (s : List Message × Message) (message : Message) : List Message × Message :=
  if Merges s.2 message then
    let fmt := { fmtMessage message with
      content := (MessageContent.string (s.2.stringContent ++ " " ++ message.stringContent)).shown }
    (s.1.dropLast ++ [fmt], fmt)
  else
    let fmt := { fmtMessage message with content := message.content.shown }
    (s.1 ++ [fmt], fmt)

def formatMessages (messages : List Message) : List Message :=
  (messages.foldl formatStep ([], { role := "tool" })).1

/-- The state of the second loop. -/
structure ClaudeMessagesState (α : Type) where
  claudeMessages : List (ClaudeMessage α) := []
  isFirstMessage : Bool := true
  systemMessages : List String := []
  deriving DecidableEq

def placeholderUserMessage : ClaudeMessage α where
  role := "user"
  content := .blocks [.text "..."]

def textsOf (parts : List MediaContent) : List String := parts.filterMap (·.text?) |>.filter (· ≠ "")

section Conversion

variable (unmarshal : String → Option α) (emptyObject : α)
  (resolveBase64Data : String → String → Option (Except String (String × String)))

/-- The object of the arguments of a call; a text that is not that of an object gives an empty one. -/
def inputObject (arguments : String) : α :=
  if arguments ≠ "" then (unmarshal arguments).getD emptyObject else emptyObject

/-- The blocks of some parts. A part whose data has no source is left out. -/
def claudeMediaMessages : List MediaContent → Except String (List (ClaudeMediaMessage α))
  | [] => .ok []
  | .text s :: parts => (claudeMediaMessages parts).map fun l => if s ≠ "" then .text s :: l else l
  | .media type json :: parts =>
    match resolveBase64Data type json with
    | none => claudeMediaMessages parts
    | some (.error e) => .error ("get file data failed: " ++ e)
    | some (.ok (data, mimeType)) =>
      (claudeMediaMessages parts).map fun l =>
        .file (if mimeType.startsWith "application/pdf" then "document" else "image") mimeType data :: l

def toolUses (message : Message) : List (ClaudeMediaMessage α) :=
  message.parseToolCalls.map fun call => .toolUse call.id call.name (inputObject unmarshal emptyObject call.arguments)

/-- A result goes to the user message that stands last, or begins one. -/
def appendToolResult (claudeMessages : List (ClaudeMessage α)) (message : Message) : List (ClaudeMessage α) :=
  let result := ClaudeMediaMessage.toolResult message.toolCallID "" message.content
  match claudeMessages.getLast? with
  | some last =>
    if last.role = "user" then
      claudeMessages.dropLast ++ [{ last with content := .blocks (last.content.toBlocks ++ [result]) }]
    else claudeMessages ++ [{ role := "user", content := .blocks [result] }]
  | none => [{ role := "user", content := .blocks [result] }]

/-- The body of the second loop. -/
def claudeStep (s : ClaudeMessagesState α) (message : Message) : Except String (ClaudeMessagesState α) :=
  if message.role = "system" then
    .ok { s with systemMessages := s.systemMessages ++ textsOf message.parseContent }
  else
    let claudeMessages :=
      if s.isFirstMessage ∧ message.role ≠ "user" then s.claudeMessages ++ [placeholderUserMessage] else s.claudeMessages
    if message.role = "tool" then
      .ok { s with claudeMessages := appendToolResult claudeMessages message, isFirstMessage := false }
    else if message.isStringContent ∧ message.toolCalls = none then
      let text := if message.stringContent = "" then "..." else message.stringContent
      .ok { s with
        claudeMessages := claudeMessages ++ [{ role := message.role, content := .string text }], isFirstMessage := false }
    else
      (claudeMediaMessages resolveBase64Data message.parseContent).map fun l =>
        { s with
          claudeMessages := claudeMessages ++
            [{ role := message.role, content := .blocks (l ++ toolUses unmarshal emptyObject message) }]
          isFirstMessage := false }

structure ClaudeConversation (α : Type) where
  system : List String
  messages : List (ClaudeMessage α)
  deriving DecidableEq

/-- `OpenAIChatRequestToClaudeMessages`, on the messages. -/
def openAIChatRequestToClaudeMessages (messages : List Message) : Except String (ClaudeConversation α) :=
  ((formatMessages messages).foldlM (claudeStep unmarshal emptyObject resolveBase64Data) {}).map fun s =>
    { system := s.systemMessages
      messages := if s.claudeMessages = [] ∧ s.systemMessages ≠ [] then [placeholderUserMessage] else s.claudeMessages }

end Conversion

/-! ## From Claude to Chat -/

inductive ClaudeSystem
  | absent
  | string (s : String)
  | blocks (l : List String)
  deriving DecidableEq

section Back

variable (marshal : α → String) (marshalContent : MessageContent → String)

/-- The id and the name of a block, empty where it has none. -/
def ClaudeMediaMessage.idName : ClaudeMediaMessage α → String × String
  | .toolUse id name _ => (id, name)
  | .toolResult _ name _ => ("", name)
  | _ => ("", "")

def searchToolNameByToolCallId (messages : List (ClaudeMessage α)) (toolCallID : String) : String :=
  let blocks := messages.flatMap fun m =>
    match m.content with
    | .string _ => []
    | .blocks l => l
  ((blocks.map ClaudeMediaMessage.idName).find? fun p => p.1 = toolCallID).elim "" Prod.snd

/-- The parts that a block gives to the message. -/
def mediaContentOf : ClaudeMediaMessage α → Option MediaContent
  | .text s => some (.text s)
  | .file type mediaType data =>
    if type = "image" then some (.media "image_url" ("data:" ++ mediaType ++ ";base64," ++ data)) else none
  | _ => none

def toolCallOf : ClaudeMediaMessage α → Option ToolCallRequest
  | .toolUse id name input => some { id := id, type := "function", name := name, arguments := marshal input }
  | _ => none

def resultText : MessageContent → String
  | .string s => s
  | c => marshalContent c

def toolMessageOf (messages : List (ClaudeMessage α)) : ClaudeMediaMessage α → Option Message
  | .toolResult toolUseID name content =>
    some {
      role := "tool"
      name := some (if name = "" then searchToolNameByToolCallId messages toolUseID else name)
      toolCallID := toolUseID
      content := .string (resultText marshalContent content) }
  | _ => none

/-- The message that is left of a Claude message beside its results. -/
def openAIMessage (message : ClaudeMessage α) : Message :=
  match message.content with
  | .string s => { role := message.role, content := .string s }
  | .blocks l =>
    let toolCalls := l.filterMap (toolCallOf marshal)
    let mediaMessages := l.filterMap mediaContentOf
    { role := message.role
      toolCalls := if toolCalls ≠ [] then some toolCalls else none
      content := if mediaMessages ≠ [] ∧ toolCalls = [] then .parts mediaMessages else .absent }

/-- The body of the loop over the messages: results come first, then the message itself unless it is empty. -/
def convertClaudeMessage (messages : List (ClaudeMessage α)) (message : ClaudeMessage α) : List Message :=
  let results :=
    match message.content with
    | .string _ => []
    | .blocks l => l.filterMap (toolMessageOf marshalContent messages)
  let rest := openAIMessage marshal message
  results ++ if rest.parseContent ≠ [] ∨ rest.toolCalls.isSome then [rest] else []

def systemMessage (isOpenRouterClaude : Bool) : ClaudeSystem → List Message
  | .absent => []
  | .string s => if s ≠ "" then [{ role := "system", content := .string s }] else []
  | .blocks l =>
    if l = [] then []
    else if isOpenRouterClaude then [{ role := "system", content := .parts (l.map .text) }]
    else [{ role := "system", content := .string (String.join l) }]

/-- `ClaudeMessagesRequestToOpenAIChat`, on the system and the messages. -/
def claudeMessagesRequestToOpenAIChat (isOpenRouterClaude : Bool) (system : ClaudeSystem)
    (messages : List (ClaudeMessage α)) : List Message :=
  systemMessage isOpenRouterClaude system ++ messages.flatMap (convertClaudeMessage marshal marshalContent messages)

end Back

end Desktop2Stereo.Requests
