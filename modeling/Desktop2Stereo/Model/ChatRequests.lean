import Desktop2Stereo.Lib.GoText

/-!
# Desktop2Stereo: the messages of a Chat request

`dto.Message` of `relaykit/dto`. Raw tool calls are modelled by the calls that are parsed from them; of media other
than text the type and the JSON of the payload are kept.
-/

namespace Desktop2Stereo.Requests

open GoText

inductive MediaContent
  | text (s : String)
  | media (type json : String)
  deriving DecidableEq

/-- The content of a message: none, a string, an array of parts, or some other JSON value. -/
inductive MessageContent
  | absent
  | string (s : String)
  | parts (l : List MediaContent)
  | other (json : String)
  deriving DecidableEq

/-- A call of a tool; `type` is that of the tool. -/
structure ToolCallRequest where
  id : String := ""
  type : String := ""
  name : String := ""
  arguments : String := ""
  deriving DecidableEq

structure Message where
  role : String
  content : MessageContent := .absent
  name : Option String := none
  toolCalls : Option (List ToolCallRequest) := none
  toolCallID : String := ""
  deriving DecidableEq

def MediaContent.text? : MediaContent → Option String
  | .text s => some s
  | .media _ _ => none

namespace Message

def isStringContent (m : Message) : Bool :=
  match m.content with
  | .string _ => true
  | _ => false

/-- The string, or the texts of the parts one after the other. -/
def stringContent (m : Message) : String :=
  match m.content with
  | .string s => s
  | .parts l => String.join (l.filterMap (·.text?))
  | _ => ""

def parseContent (m : Message) : List MediaContent :=
  match m.content with
  | .string s => [.text s]
  | .parts l => l
  | _ => []

def parseToolCalls (m : Message) : List ToolCallRequest := m.toolCalls.getD []

end Message

end Desktop2Stereo.Requests
