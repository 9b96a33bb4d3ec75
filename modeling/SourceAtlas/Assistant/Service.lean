import SourceAtlas.Assistant.Client

/-! The assistant on a server: looked for once, with answers that are kept. -/

namespace SourceAtlas

/-- An assistant on a server, with what is known of it and the answers it gave. -/
structure Service where
  settings : AssistantSettings
  wire : Wire
  /-- Whether the server has been looked for. -/
  initialized : Bool := false
  available : Bool := false
  /-- Why the server cannot be used. -/
  reason : Option String := none
  /-- The answers by question. -/
  answers : Assoc Json := []

/-- What looking for the server told. -/
structure ServiceStatus where
  available : Bool
  reason : Option String
  /-- The model, unless the server was not looked for just now. -/
  model : Option (Option String) := none

/-- What looking for the server told, as a record. -/
def ServiceStatus.toJson (status : ServiceStatus) : Json :=
  -- The model is a field only where the server was looked for.
  .obj ([("available", .bool status.available), ("error", .ofText? status.reason)] ++
    status.model.toList.map fun model => ("model", .ofText? model))

namespace Service

/-- A question over the wire of a service. -/
def exchange {α : Type} (service : Service) (question : Exchange α) :
    Except ClientFault α × Service :=
  -- What happened on the wire stays, whether or not there is an answer.
  let (answer, wire) := question.run.run service.wire
  (answer, { service with wire })

/-- What is known of the server. -/
def status (service : Service) : ServiceStatus :=
  ⟨service.available, service.reason, none⟩

/-- Why no server is looked for when no model is named. -/
def disabledReason : String :=
  "Local LLM not enabled (set CODE_INDEX_LOCAL_LLM=<model_name>, e.g. qwen2.5-coder:7b)"

/-- Why a server cannot be used when it gives no reason. -/
def unknownReason : String :=
  "Ollama not available"

/-- The service that knows whether the server is there. -/
def learn (service : Service) : Health → Service
  -- A server without the wanted model is a server all the same.
  | .up _ _ => { service with available := true }
  -- A server that gives no reason gets one.
  | .down reason =>
    { service with
      available := false
      reason := some (if reason.isEmpty then unknownReason else reason) }

/-- Looks for the server, unless that has been done. -/
def start (service : Service) : Except ClientFault ServiceStatus × Service :=
  -- The second time what is known is told again, without the model.
  if service.initialized then (.ok service.status, service)
  else
    let service := { service with initialized := true }
    -- No model is named, so nothing is sent.
    if !service.settings.enabled then
      let service := { service with reason := some disabledReason }
      (.ok ⟨false, service.reason, none⟩, service)
    else
      -- The service counts as initialized even where this fails.
      match service.exchange (Client.health service.settings) with
      | (.error fault, service) => (.error fault, service)
      | (.ok health, service) =>
        let service := service.learn health
        (.ok ⟨service.available, service.reason, some service.settings.model⟩, service)

/-- Whether the server was found. -/
def isAvailable (service : Service) : Bool :=
  -- A server that was not looked for is not available.
  service.initialized && service.available

/-- The kept answer to a question, or a new one that is kept; nothing when the fault
is one that is expected. -/
def answer (service : Service) (key : String) (expected : ClientFault → Bool)
    (question : Exchange Json) : Except ClientFault (Option Json) × Service :=
  -- A kept answer is given again without any exchange.
  match service.answers.get? key with
  | some kept => (.ok (some kept), service)
  | none =>
    match service.exchange question with
    | (.ok value, service) =>
      (.ok (some value), { service with answers := service.answers.put key value })
    -- Faults that are not expected go on to the caller, and neither kind is kept.
    | (.error fault, service) => (if expected fault then .ok none else .error fault, service)

/-- The key of a question to the model. -/
def generateKey (prompt : String) (maxTokens : Int) : String :=
  -- Length and prompt tell questions apart.
  "generate:" ++ toString maxTokens ++ ":" ++ prompt

/-- The answer of the model. -/
def generate (service : Service) (prompt : String) (maxTokens : Int) :
    Except ClientFault (Option Json) × Service :=
  if service.isAvailable then
    -- Only faults of the exchange are expected here.
    service.answer (generateKey prompt maxTokens) ClientFault.isUnusable
      (Client.generate service.settings { prompt, maxTokens })
  else (.ok none, service)

/-- Whether a fault is expected of a list of records. -/
def isListFault (fault : ClientFault) : Bool :=
  fault.isUnusable || fault.isMistyped

/-- The key of a ranking. -/
def rankKey (paths : List String) (task : String) : String :=
  -- Texts in paths or tasks are not escaped, so two questions may share a key.
  "rankFiles:" ++ task ++ ":" ++ joinWith "|" paths

/-- The paths with their relevance to a task. -/
def rank (service : Service) (paths : List String) (task : String) :
    Except ClientFault (Option Json) × Service :=
  -- Nothing to rank needs no server.
  if paths.isEmpty then (.ok (some (.arr [])), service)
  else if service.isAvailable then
    service.answer (rankKey paths task) isListFault
      (Json.arr <$> Client.rank service.settings paths task)
  else (.ok none, service)

/-- The key of summaries; all passages must have paths. -/
def summaryKey? (passages : List Passage) (task : String) : Option String := do
  -- One passage without a path is enough for there to be no key.
  let paths ← passages.mapM Passage.path
  return "summarizeCtx:" ++ task ++ ":" ++ joinWith "|" paths

/-- The summaries of passages for a task. -/
def summarize (service : Service) (passages : List Passage) (task : String) :
    Except ClientFault (Option Json) × Service :=
  -- Nothing to summarise needs no server.
  if passages.isEmpty then (.ok (some (.arr [])), service)
  else if service.isAvailable then
    match summaryKey? passages task with
    -- The key is made before anything is sent.
    | none => (.error .incomplete, service)
    | some key =>
      service.answer key isListFault (Json.arr <$> Client.summarize service.settings passages task)
  else (.ok none, service)

/-- An answer that may have failed as one that may be missing. -/
def found : Except ClientFault (Option Json) × Service → Option Json × Service
  -- Callers of an assistant see no faults.
  | (.ok answer, service) => (answer, service)
  | (.error _, service) => (none, service)

/-- The service as an assistant. -/
def assistant : Assistant Service where
  -- Looking for the server is all there is to get ready.
  prepare service :=
    match service.start with
    | (.ok _, service) => (.ready, service)
    | (.error _, service) => (.failed, service)
  isAvailable := isAvailable
  rank paths task service := found (service.rank paths task)
  summarize passages task service := found (service.summarize passages task)
  generate prompt maxTokens service := found (service.generate prompt maxTokens)
  -- There is nothing to release that is modelled here.
  close service := service

end Service

end SourceAtlas
