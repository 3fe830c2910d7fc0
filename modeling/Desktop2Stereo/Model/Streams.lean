import Desktop2Stereo.Lib.GoText

/-!
# Chat chunks and Claude events

The messages that the stream converters of `relaykit/dto` read and write. Raw JSON is modelled by what the converters
read of it. Of a usage only the token counts are kept that decide whether there is any.
-/

namespace Desktop2Stereo

open GoText

/-! ## JSON values -/

/-- A raw message: empty, not of the type it is decoded to, or a value. -/
inductive RawJson (α : Type)
  | absent
  | invalid (message : String)
  | parsed (value : α)
  deriving DecidableEq

/-- The fields of a citation that are read. -/
structure Citation where
  type : Option String := none
  url : String := ""
  title : String := ""
  citedText : String := ""
  encryptedIndex : String := ""
  startIndex : Option ℤ := none
  endIndex : Option ℤ := none
  deriving DecidableEq

/-- An annotation: its type, the object under `url_citation`, and its own fields. -/
structure Annotation where
  type : String
  urlCitation : Option Citation := none
  fields : Citation := {}
  deriving DecidableEq

structure Usage where
  promptTokens : ℤ := 0
  completionTokens : ℤ := 0
  totalTokens : ℤ := 0
  deriving DecidableEq

/-- `HasOpenAIUsageTokens` -/
def Usage.hasTokens (u : Usage) : Bool := u.promptTokens ≠ 0 || u.completionTokens ≠ 0 || u.totalTokens ≠ 0

def mergeUsageNonZero (current incoming : Option Usage) : Option Usage :=
  let current := current.getD {}
  match incoming with
  | none => some current
  | some incoming => some {
      promptTokens := if incoming.promptTokens > 0 then incoming.promptTokens else current.promptTokens
      completionTokens := if incoming.completionTokens > 0 then incoming.completionTokens else current.completionTokens
      totalTokens := if incoming.totalTokens > 0 then incoming.totalTokens else current.totalTokens }

/-! ## Chat Completions -/

structure ToolCallResponse where
  index : Option ℤ := none
  id : String := ""
  name : String := ""
  arguments : String := ""
  deriving DecidableEq

/-- `dto.ChatCompletionsStreamResponseChoiceDelta` -/
structure ChoiceDelta where
  role : String := ""
  content : Option String := none
  reasoningContent : Option String := none
  reasoning : Option String := none
  toolCalls : List ToolCallResponse := []
  annotations : RawJson (List Annotation) := .absent
  deriving DecidableEq

def ChoiceDelta.getContentString (d : ChoiceDelta) : String := d.content.getD ""

def ChoiceDelta.getReasoningContent (d : ChoiceDelta) : String := (d.reasoningContent.or d.reasoning).getD ""

/-- `dto.ChatCompletionsStreamResponseChoice` -/
structure StreamChoice where
  delta : ChoiceDelta := {}
  finishReason : Option String := none
  deriving DecidableEq

structure ChatCompletionsStreamResponse where
  id : String := ""
  created : ℤ := 0
  model : String := ""
  choices : List StreamChoice := []
  usage : Option Usage := none
  deriving DecidableEq

/-! ## Claude Messages -/

/-- A `web_search_result_location`. -/
structure ClaudeCitation where
  url : String
  title : Option String
  citedText : Option String
  encryptedIndex : Option String
  deriving DecidableEq

inductive ContentBlock
  | text
  | thinking
  | toolUse (id name : String)
  deriving DecidableEq

inductive BlockDelta
  | text (s : String)
  | thinking (s : String)
  | inputJson (s : String)
  | citations (c : ClaudeCitation)
  deriving DecidableEq

/-- `dto.ClaudeResponse`, an event of a stream. -/
inductive ClaudeResponse
  | messageStart (id model : String) (inputTokens : ℤ)
  | contentBlockStart (index : ℤ) (block : ContentBlock)
  | contentBlockDelta (index : ℤ) (delta : BlockDelta)
  | contentBlockStop (index : ℤ)
  | messageDelta (stopReason : String) (usage : Option Usage)
  | messageStop
  deriving DecidableEq

end Desktop2Stereo
