import SourceAtlas.Assistant.Advisor
import SourceAtlas.Assistant.Settings
import SourceAtlas.Assistant.Wire
import SourceAtlas.Json.Display
import SourceAtlas.Json.Printer
import SourceAtlas.Json.Reader
import SourceAtlas.Number.Ranking

/-! Questions to a language model on a server. -/

namespace SourceAtlas

/-- Why a question to a model has no answer. -/
inductive ClientFault where
  /-- The exchange with the server failed. -/
  | lost (kind message : String)
  /-- The server told of no success. -/
  | refused (status : Int) (url : String)
  /-- The reply is no JSON, or has a number with too many digits. -/
  | unreadable (error : JsonError)
  /-- A number in the question cannot be written. -/
  | unsendable
  | noJson (text : String)
  | invalidJson (error : JsonError)
  | noRankings
  | noSummaries
  /-- The relevance is a text that is no number. -/
  | unreadableScore
  /-- The relevance is a list or a record. -/
  | noScore
  /-- The relevance is an integer beyond all doubles. -/
  | hugeScore
  /-- Something is no list. -/
  | noList
  /-- The model did not answer with a text. -/
  | noText
  /-- A record or a text was expected. -/
  | misshapen
  /-- A passage has no path or no content. -/
  | incomplete
  | broken (message : String)

namespace ClientFault

/-- How many characters of an answer are shown. -/
def shownAnswer : Nat := 200

/-- The wording of a fault, where it has one. -/
def message : ClientFault → String
  -- The exchange itself.
  | lost _ text => text
  | refused status url => Status.message status url
  | unreadable error => error.message
  -- The answer in it, of which the beginning is shown.
  | noJson text => "No JSON found in response: " ++ takeChars shownAnswer text
  | invalidJson error => "Invalid JSON response: " ++ error.message
  | noRankings => "Expected a JSON array of rankings"
  | noSummaries => "Expected a JSON array of summaries"
  | broken text => text
  -- The others are never shown.
  | _ => ""

/-- Whether the exchange failed or the values in it are wrong. -/
def isUnusable : ClientFault → Bool
  -- Faults of the exchange.
  | lost _ _ => true
  | refused _ _ => true
  | unreadable _ => true
  | unsendable => true
  -- Values that are not what was asked for.
  | noJson _ => true
  | invalidJson _ => true
  | noRankings => true
  | noSummaries => true
  | unreadableScore => true
  -- All others are faults of shape, and those are told elsewhere.
  | _ => false

/-- Whether a value is of the wrong type. -/
def isMistyped : ClientFault → Bool
  -- What is no number, no list or no text where one is needed.
  | noScore => true
  | noList => true
  | noText => true
  | _ => false

end ClientFault

/-- A question that is sent over a wire; what was sent stays sent when it fails. -/
abbrev Exchange := ExceptT ClientFault (StateM Wire)

/-- A question to a model, and how it should be answered; the numbers may be whole or not. -/
structure Completion where
  prompt : String
  maxTokens : Int := 256
  temperature : Json := .float (Binary64.ofDecimal false 1 (-1))
  topP : Json := .float (Binary64.ofDecimal false 9 (-1))
  stop : Json := .arr []

/-- Whether a server is there, and with which models. -/
inductive Health where
  | down (reason : String)
  | up (models : List Json) (hasModel : Bool)

/-- What is known of a server as a record, for a wanted model. -/
def Health.toJson (health : Health) (model : Option String) : Json :=
  match health with
  | .down reason =>
    .obj [("available", .bool false), ("models", .arr []), ("has_model", .bool false),
      ("error", .str reason)]
  | .up models hasModel => .obj [("available", .bool true), ("models", .arr models),
      ("has_model", .bool hasModel), ("selected_model", .ofText? model)]

/-- The body of a reply from an address, which must tell of success. -/
def Reply.body (url : String) : Reply → Except ClientFault String
  | lost kind text => .error (.lost kind text)
  | broken text => .error (.broken text)
  | response status body =>
    -- Any other status is told with the address that gave it.
    if Status.isSuccess status then .ok body else .error (.refused status url)

namespace Client

/-- The port that need not be written. -/
def usualPort : Int := 80

/-- The address of a resource of the server. -/
def address (settings : AssistantSettings) (resource : String) : String :=
  -- The usual port is left out, as an address is always written.
  let port := if settings.port == usualPort then "" else ":" ++ toString settings.port
  "http://" ++ lower settings.host ++ port ++ resource

/-- Sends a request; the reply must tell of success. -/
def send (request : Request) : Exchange String := do
  -- The request counts as sent whatever comes back for it.
  let (reply, wire) := (← get).send request
  set wire
  ofExcept (reply.body request.url)

/-- A body without the byte order mark that may stand in front. -/
def withoutMark (body : String) : String :=
  -- Only the first character can be one.
  match body.toList with
  | '\ufeff' :: rest => String.ofList rest
  | _ => body

/-- The value in the body of a reply. -/
def readBody (body : String) : Exchange Json :=
  match Json.parse (withoutMark body) with
  | .ok value => return value
  | .error error => throw (.unreadable error)

/-- The value of a field of a record. -/
def fieldOf (value : Json) (key : String) (default : Json) : Exchange Json :=
  match value with
  -- A field that is missing has a default, but what is no record has no fields.
  | .obj fields => return (Assoc.get? fields key).getD default
  | _ => throw .misshapen

/-- The items of a value that can be gone through. -/
def itemsOf : Json → Exchange (List Json)
  | .arr items => return items
  -- Texts and records can be gone through as well, by characters and by keys.
  | .str text => return text.toList.map fun c => .str c.toString
  | .obj fields => return fields.map fun field => .str field.1
  | _ => throw .noList

/-- The request for the models that the server has. -/
def modelsRequest (settings : AssistantSettings) : Request :=
  ⟨address settings "/api/tags", none⟩

/-- The names of the models that the server has. -/
def models (settings : AssistantSettings) : Exchange (List Json) := do
  -- Each step may fail: the exchange, the body, the list, and the name of each model.
  let value ← readBody (← send (modelsRequest settings))
  let listed ← itemsOf (← fieldOf value "models" (.arr []))
  listed.mapM fun model => fieldOf model "name" (.str "")

/-- The family of the wanted model. -/
def family (settings : AssistantSettings) : List Char :=
  -- The family is the part of the name before the tag.
  beforeFirst ':' (settings.model.getD "").toList

/-- Whether a name starts with the family of the wanted model. -/
def hasFamily (family : List Char) : List Json → Exchange Bool
  | [] => return false
  | .str name :: names =>
    -- The first hit ends the search, so what follows it may be no text.
    if startsWith family name.toList then return true else hasFamily family names
  | _ => throw .misshapen

/-- The answer to a question, or the wording of a fault when the exchange failed or the
values in it are wrong. -/
def attempt {α : Type} (question : Exchange α) : Exchange (Except String α) :=
  -- All other faults go on to the caller.
  tryCatch (Except.ok <$> question) fun fault =>
    if fault.isUnusable then return .error fault.message else throw fault

/-- Whether the server is there, and whether it has the wanted model. -/
def health (settings : AssistantSettings) : Exchange Health := do
  match ← attempt (models settings) with
  | .error reason => return .down reason
  | .ok names =>
    -- Without a wanted model there is nothing to look for among the names.
    if (family settings).isEmpty then return .up names false
    return .up names (← hasFamily (family settings) names)

/-- Whether a number can be written. -/
def isWritable : Json → Bool
  -- Doubles that are no numbers have no form in a message.
  | .float value => value.isFinite
  | _ => true

/-- The question as it is sent. -/
def completionBody (settings : AssistantSettings) (completion : Completion) : Json :=
  .obj [("model", .ofText? settings.model), ("prompt", .str completion.prompt),
    -- The answer is wanted in one piece.
    ("stream", .bool false),
    ("options", .obj [("temperature", completion.temperature),
      ("num_predict", .int completion.maxTokens), ("top_p", completion.topP),
      -- Whatever counts as absent is sent as no stop words at all.
      ("stop", if completion.stop.truthy then completion.stop else .arr [])])]

/-- The request that puts a question. -/
def completionRequest (settings : AssistantSettings) (completion : Completion) : Request :=
  ⟨address settings "/api/generate", some (completionBody settings completion)⟩

/-- The answer of the model. -/
def generate (settings : AssistantSettings) (completion : Completion) : Exchange Json := do
  -- Nothing is sent that could not be written.
  if !(isWritable completion.temperature && isWritable completion.topP) then throw .unsendable
  fieldOf (← readBody (← send (completionRequest settings completion))) "response" (.str "")

/-- The bracket that closes what a bracket opens. -/
def closing? : Char → Option Char
  | '\x7b' => some '\x7d'
  | '[' => some ']'
  | _ => none

/-- The stretch from the first bracket that is closed later to the last closing one. -/
def embedded? : List Char → Option (List Char)
  | [] => none
  | c :: rest =>
    match (closing? c).filter rest.contains with
    -- It goes on up to the last closing one, and the value is read from all that.
    | some close => some (c :: (rest.reverse.dropWhile (· != close)).reverse)
    | none => embedded? rest

/-- The value in the answer of the model. -/
def valueIn : Json → Exchange Json
  | .str text =>
    match embedded? text.toList with
    | none => throw (.noJson text)
    -- The first opening bracket may belong to something else, in which case reading fails.
    | some found =>
      match Json.parse (String.ofList found) with
      | .ok value => return value
      -- A number with too many digits is no fault of the text, and not told as one.
      | .error error =>
        throw (if error.fault.isSyntactic then .invalidJson error else .unreadable error)
  | _ => throw .noText

/-- A question that must be answered with a value. -/
def valueCompletion (prompt : String) (maxTokens : Int) : Completion where
  -- The model is told twice what form is wanted, by words and by a low temperature.
  prompt := prompt ++ "\n\nRespond with valid JSON only, no additional text."
  maxTokens := maxTokens
  temperature := .float (Binary64.ofDecimal false 5 (-2))

/-- The value in the answer of the model to a question. -/
def generateJson (settings : AssistantSettings) (prompt : String) (maxTokens : Int) :
    Exchange Json := do
  valueIn (← generate settings (valueCompletion prompt maxTokens))

/-- The records in a list that have a path. -/
def placed (items : List Json) : List Json :=
  -- Items without a path are left out, and so are those that are no records.
  items.filter fun item => (item.field? "path").isSome

/-- How many characters of a task are sent. -/
def taskLimit : Nat := 500

/-- How many paths are sent. -/
def pathLimit : Nat := 50

/-- Texts with their numbers from one. -/
def numbered (texts : List String) : List (String × String) :=
  texts.zipIdx.map fun (text, index) => (toString (index + 1), text)

/-- The question for a ranking. -/
def rankingPrompt (paths : List String) (task : String) : String :=
  -- Only the first paths are sent, with their numbers.
  let listing := (numbered (paths.take pathLimit)).map fun (number, path) => number ++ ". " ++ path
  "Rank these files by relevance to the task.\n\nTask: " ++ takeChars taskLimit task ++
    "\n\nFiles:\n" ++ joinWith "\n" listing ++
    "\n\nFor each file, estimate relevance (0.0-1.0) based on:\n- File name and path patterns\n" ++
    "- Likely content based on naming conventions\n- Relationship to task keywords\n\n" ++
    "Return JSON array: [\x7b\"path\": \"file.js\", \"relevance\": 0.8, " ++
    "\"reason\": \"brief reason\"\x7d, ...]\n" ++
    "Order by relevance descending. Only include files with relevance > 0.3"

/-- The relevance in a record; whatever counts as absent is zero. -/
def scoreOf (item : Json) : Exchange Binary64 :=
  -- Null, false, zero and empty values have no relevance.
  let value := item.fieldOrNull "relevance"
  if value.truthy then
    match value with
    | .int number =>
      -- The number may be larger than all doubles.
      match Binary64.ofInt? number with
      | some score => return score
      | none => throw .hugeScore
    | .float score => return score
    | .bool _ => return Binary64.ofDecimal false 1 0
    | .str text =>
      -- A text is read as a number in any form of it.
      match numberInText? text.toList with
      | some score => return score
      | none => throw .unreadableScore
    | _ => throw .noScore
  else return .zero

/-- The ranked records in a value, those of the highest relevance first. -/
def rankings : Json → Exchange (List Json)
  | .arr items => do
    -- The relevance of each item is read before any of them is put in order.
    let scored ← (placed items).mapM fun item => do return (← scoreOf item, item)
    return (sortDescending Prod.fst scored).map Prod.snd
  | _ => throw .noRankings

/-- The paths with their relevance to a task, the highest first. -/
def rank (settings : AssistantSettings) (paths : List String) (task : String) :
    Exchange (List Json) := do
  rankings (← generateJson settings (rankingPrompt paths task) 800)

/-- How many characters of a passage are sent. -/
def passageLimit : Nat := 2000

/-- A passage as it is sent. -/
def passageBlock (number : String) (passage : Passage) : Exchange String :=
  match passage.path, passage.content with
  | some path, some content =>
    -- Of a long passage only the beginning is sent.
    return "\n--- FILE " ++ number ++ ": " ++ path ++ " ---\n" ++
      takeChars passageLimit content ++ "\n"
  | _, _ => throw .incomplete

/-- Passages as they are sent, with their numbers from one. -/
def passageBlocks (passages : List Passage) : Exchange (List String) :=
  -- The first passage without a path or a content ends it all.
  passages.zipIdx.mapM fun numbered => passageBlock (toString (numbered.2 + 1)) numbered.1

/-- The question for summaries. -/
def summaryPrompt (blocks : List String) (task : String) : String :=
  -- The form of the answer is shown by an example.
  "You are a code context summarizer. " ++
    "Summarize each file focusing on what's relevant to the task.\n\nTask: " ++
    takeChars taskLimit task ++ "\n\nFiles to summarize:\n" ++ joinWith "\n" blocks ++
    "\nFor each file, provide:\n1. A concise summary (2-3 sentences)\n" ++
    "2. Relevance score (0.0-1.0) to the task\n\n" ++
    "Return JSON array: [\x7b\"path\": \"file.js\", \"summary\": \"...\", " ++
    "\"relevance\": 0.8\x7d, ...]"

/-- The summaries in a value. -/
def summaries : Json → Exchange (List Json)
  -- Unlike a ranking, summaries keep their order.
  | .arr items => return placed items
  | _ => throw .noSummaries

/-- The summaries of passages for a task. -/
def summarize (settings : AssistantSettings) (passages : List Passage) (task : String) :
    Exchange (List Json) := do
  -- The passages are checked before anything is sent.
  let blocks ← passageBlocks passages
  summaries (← generateJson settings (summaryPrompt blocks task) 1000)

end Client

end SourceAtlas
