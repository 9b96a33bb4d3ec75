import SourceAtlas.Schema.Checked
import SourceAtlas.Text.Case
import SourceAtlas.Text.Quoted

/-! Connection settings of the assistant: a language model on a local server, used
only when one is named. -/

namespace SourceAtlas

/-- Where the model is and how long a request may take. -/
structure AssistantSettings where
  /-- The name of the model; without one there is no assistant. -/
  model : Option String := none
  host : String := "localhost"
  port : Int := 11434
  /-- The seconds that a request may take. -/
  timeout : Binary64 := Binary64.ofQuotient false 300 1

/-- Why no settings can be taken from the environment. -/
inductive EnvironmentFault where
  /-- The port is infinite. -/
  | endlessPort
  /-- The port is no number at all. -/
  | noPort

namespace AssistantSettings

/-- Whether an assistant is wanted. -/
def enabled (settings : AssistantSettings) : Bool :=
  settings.model.isSome

/-- The address of the server. -/
def baseUrl (settings : AssistantSettings) : String :=
  "http://" ++ settings.host ++ ":" ++ toString settings.port

/-- The settings as a record. -/
def toJson (settings : AssistantSettings) : Json :=
  .obj [("model", .ofText? settings.model), ("host", .str settings.host),
    ("port", .int settings.port), ("timeout", .float settings.timeout)]

/-- Reads connection settings; what is left out has its usual value. -/
def read : FieldReader AssistantSettings :=
  FieldReader.record fun fields =>
    let usual : AssistantSettings := {}
    AssistantSettings.mk
    <$> defaultField fields "model" (FieldReader.optional FieldReader.text) usual.model
    <*> defaultField fields "host" FieldReader.text usual.host
    <*> defaultField fields "port" FieldReader.integer usual.port
    <*> defaultField fields "timeout" FieldReader.number usual.timeout

/-- The words that name no model. -/
def switchWords : List String := ["", "0", "1", "false", "true"]

/-- The model that a variable names. -/
def modelNamed (value : String) : Option String :=
  -- The name keeps its case, but the words are told in any case.
  let name := String.ofList (trimBlanks value.toList)
  if switchWords.contains (lower name) then none else some name

/-- A number from a variable, or the usual one with a warning when it cannot be read. -/
def numberFrom (environment : Assoc String) (name : String) (usual : Binary64) :
    Binary64 × List String :=
  match environment.get? name with
  -- An empty variable is as good as none.
  | none => (usual, [])
  | some "" => (usual, [])
  | some value =>
    -- What is no number is named in the warning as it was given.
    match numberInText? value.toList with
    | some number => (number, [])
    | none => (usual, ["Ignoring invalid " ++ name ++ "=" ++ quoted value])

/-- The settings that environment variables give, with warnings. -/
def ofEnvironment (environment : Assoc String) :
    Except EnvironmentFault (AssistantSettings × List String) :=
  let usual : AssistantSettings := {}
  -- The port is checked first, so a wrong one hides what else is wrong.
  let (port, portWarnings) :=
    numberFrom environment "OLLAMA_PORT" (Binary64.ofQuotient false 11434 1)
  if port.isNaN then .error .noPort
  else if port.isInfinite then .error .endlessPort
  else
    let (timeout, timeoutWarnings) := numberFrom environment "OLLAMA_TIMEOUT" usual.timeout
    -- An empty host is none.
    let host := match environment.get? "OLLAMA_HOST" with
      | some "" => usual.host
      | some host => host
      | none => usual.host
    let model := modelNamed ((environment.get? "CODE_INDEX_LOCAL_LLM").getD "")
    -- A port with a fraction loses it.
    .ok ({ model, host, port := port.truncate, timeout }, portWarnings ++ timeoutWarnings)

end AssistantSettings

end SourceAtlas
