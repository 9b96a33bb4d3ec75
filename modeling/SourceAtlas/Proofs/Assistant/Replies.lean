import SourceAtlas.Assistant.Service

/-! What the questions to a server make of its replies: the answers they find in them, and the
replies at which they derail, so that they fail in a way that nobody expects. -/

namespace SourceAtlas

/-! ## Replies and values -/

namespace Json

/-- Whether a value is a record. -/
def isRecord : Json → Bool
  | obj _ => true
  | _ => false

/-- Whether a value is a text. -/
def isText : Json → Bool
  | str _ => true
  | _ => false

/-- The field of a record, or what stands for it. -/
def member? (value : Json) (key : String) (default : Json) : Option Json :=
  match value with
  | obj fields => some ((Assoc.get? fields key).getD default)
  | _ => none

/-- The items of a list, the characters of a text or the keys of a record. -/
def items? : Json → Option (List Json)
  | arr items => some items
  | str text => some (text.toList.map fun c => str c.toString)
  | obj fields => some (fields.map fun field => str field.1)
  | _ => none

/-- The value that is embedded in a text. -/
def embeddedValue? : Json → Option Json
  | str text =>
    (Client.embedded? text.toList).bind fun found => (Json.parse (String.ofList found)).toOption
  | _ => none

end Json

namespace Reply

/-- Whether the exchange breaks in no known way. -/
def isBroken : Reply → Bool
  | broken _ => true
  | _ => false

/-- The text of a reply that tells of success. -/
def text? : Reply → Option String
  | response status body => if Status.isSuccess status then some body else none
  | _ => none

/-- The value in a reply that tells of success. -/
def value? (reply : Reply) : Option Json :=
  reply.text?.bind fun body => (Json.parse (Client.withoutMark body)).toOption

/-- Whether the exchange breaks, or comes to a value that nobody expects. -/
def derails (unexpected : Json → Bool) (reply : Reply) : Bool :=
  reply.isBroken || reply.value?.any unexpected

end Reply

/-- The reply to the next request. -/
def Wire.next (wire : Wire) : Reply :=
  wire.replies.headD Wire.silence

/-- Whether a server is there. -/
def Health.isUp : Health → Bool
  | up _ _ => true
  | down _ => false

/-- Whether a passage has a path and content. -/
def Passage.isComplete (passage : Passage) : Bool :=
  passage.path.isSome && passage.content.isSome

/-! ## Questions -/

namespace Exchange

variable {α β : Type}

/-- What a question comes to through a wire, and the wire after it. -/
def through (question : Exchange α) (wire : Wire) : Except ClientFault α × Wire :=
  question.run.run wire

/-- A question that has an answer needs no handler. -/
private theorem through_tryCatch_of_ok {question : Exchange α} {handler : ClientFault → Exchange α}
    {wire after : Wire} {value : α} (answered : question.through wire = (.ok value, after)) :
    (tryCatch question handler).through wire = (.ok value, after) := by
  -- The handler is looked at only when the question has come to a fault.
  change (ExceptT.tryCatch question handler).run.run wire = _
  simp only [ExceptT.tryCatch, ExceptT.run, ExceptT.mk]
  rw [StateT.run_bind, show StateT.run question wire = _ from answered]
  rfl

/-- A question that fails goes on with the handler, over the wire that it leaves. -/
private theorem through_tryCatch_of_error {question : Exchange α}
    {handler : ClientFault → Exchange α} {wire after : Wire} {fault : ClientFault}
    (failed : question.through wire = (.error fault, after)) :
    (tryCatch question handler).through wire = (handler fault).through after := by
  -- The fault is given to the handler, and what was sent stays sent.
  change (ExceptT.tryCatch question handler).run.run wire = _
  simp only [ExceptT.tryCatch, ExceptT.run, ExceptT.mk]
  rw [StateT.run_bind, show StateT.run question wire = _ from failed]
  rfl

/-- Through a wire a question comes to an answer, or to a fault that derails it
when it is not expected. -/
inductive ComesTo (expected : ClientFault → Bool) (question : Exchange α) (wire : Wire) :
    Option α → Bool → Wire → Prop
  | answer {value : α} {after : Wire} (answered : question.through wire = (.ok value, after)) :
      ComesTo expected question wire (some value) false after
  | fault {fault : ClientFault} {after : Wire}
      (failed : question.through wire = (.error fault, after)) :
      ComesTo expected question wire none (!expected fault) after

variable {expected : ClientFault → Bool} {question : Exchange α} {next : α → Exchange β}
  {wire after : Wire}

/-- With an answer the next step goes on from the wire that is left. -/
theorem through_bind_of_ok {value : α} (answered : question.through wire = (.ok value, after)) :
    (question >>= next).through wire = (next value).through after := by
  -- The two steps run one after the other over the same wire.
  rw [through, ExceptT.run_bind, StateT.run_bind, show question.run.run wire = _ from answered]
  rfl

/-- Without an answer there is no next step. -/
theorem through_bind_of_error {fault : ClientFault}
    (failed : question.through wire = (.error fault, after)) :
    (question >>= next).through wire = (.error fault, after) := by
  -- The fault of the first step is the fault of both.
  rw [through, ExceptT.run_bind, StateT.run_bind, show question.run.run wire = _ from failed]
  rfl

/-- A value at hand is an answer, and nothing is sent. -/
theorem comesTo_pure (value : α) : ComesTo expected (pure value) wire (some value) false wire :=
  .answer rfl

/-- A fault is no answer, and derails the question unless it is expected. -/
theorem comesTo_of_error {fault : ClientFault} {derailed : Bool}
    (failed : question.through wire = (.error fault, after)) (known : expected fault = !derailed) :
    ComesTo expected question wire none derailed after := by
  -- Whether it derails is what is not expected.
  have derails : derailed = !expected fault := by rw [known, Bool.not_not]
  rw [derails]
  exact .fault failed

/-- What a question comes to is what it gives through the wire. -/
theorem ComesTo.through_eq {found : Option α} {derailed : Bool}
    (come : ComesTo expected question wire found derailed after) :
    ∃ outcome, question.through wire = (outcome, after) ∧ outcome.toOption = found := by
  -- An answer or a fault: both leave the wire that is told.
  cases come with
  | answer answered => exact ⟨_, answered, rfl⟩
  | fault failed => exact ⟨_, failed, rfl⟩

/-- A question that goes as another one does comes to the same. -/
theorem ComesTo.of_through {other : Exchange α} {start : Wire} {found : Option α} {derailed : Bool}
    (come : ComesTo expected question wire found derailed after)
    (same : other.through start = question.through wire) :
    ComesTo expected other start found derailed after := by
  -- Only what happens through the wire counts.
  cases come with
  | answer answered => exact .answer (same.trans answered)
  | fault failed => exact .fault (same.trans failed)

/-- A fault at once is no answer, and nothing is sent. -/
theorem comesTo_throw {fault : ClientFault} {derailed : Bool} (known : expected fault = !derailed) :
    ComesTo expected (throw fault : Exchange α) wire none derailed wire :=
  comesTo_of_error rfl known

/-- A second step that sends nothing goes on with the answer of the first. -/
theorem ComesTo.bind {first : Option α} {derailed : Bool} {second? : α → Option β}
    {derails : α → Bool} (come : ComesTo expected question wire first derailed after)
    (go : ∀ value, ComesTo expected (next value) after (second? value) (derails value) after) :
    ComesTo expected (question >>= next) wire (first.bind second?)
      (derailed || first.any derails) after := by
  -- Only an answer of the first step leads to the second one.
  cases come with
  | fault failed =>
    -- Without a first answer there is no second step, and it cannot derail.
    rw [Option.bind_none, Option.any_none, Bool.or_false]
    exact .fault (through_bind_of_error failed)
  | @answer value _ answered =>
    have goes := go value
    rw [Option.bind_some, Option.any_some, Bool.false_or]
    generalize second? value = second, derails value = derailing at goes
    cases goes with
    | answer again => exact .answer ((through_bind_of_ok answered).trans again)
    | fault failed => exact .fault ((through_bind_of_ok answered).trans failed)

/-- What is made of an answer does not change whether there is one. -/
theorem ComesTo.map {first : Option α} {derailed : Bool} (wrap : α → β)
    (come : ComesTo expected question wire first derailed after) :
    ComesTo expected (wrap <$> question) wire (first.map wrap) derailed after := by
  -- Mapping is a second step that always has an answer.
  have mapped := come.bind fun value => comesTo_pure (wrap value)
  rw [← bind_pure_comp]
  cases first <;> simpa using mapped

/-- Items are asked about one by one, up to the first without an answer. -/
private theorem comesTo_mapM {ask : α → Exchange β} {answer? : α → Option β} {derails : α → Bool}
    (each : ∀ item, ComesTo expected (ask item) wire (answer? item) (derails item) wire)
    (items : List α) :
    ComesTo expected (items.mapM ask) wire (items.mapM answer?)
      ((items.find? fun item => (answer? item).isNone).any derails) wire := by
  -- The first item without an answer ends the questions, and decides whether they derail.
  induction items with
  | nil => exact comesTo_pure []
  | cons item rest ih =>
    have whole := (each item).bind fun value => ih.bind fun values => comesTo_pure (value :: values)
    rw [List.mapM_cons, List.mapM_cons, List.find?_cons]
    have head := each item
    cases answered : answer? item with
    | none => simpa [answered] using whole
    | some value =>
      -- An item with an answer has not derailed, so the rest decides.
      rw [answered] at head
      generalize derails item = derailing at head whole
      cases head with
      | answer _ => simpa [answered] using whole

/-- Two steps of which every fault derails make one. -/
theorem ComesTo.bind_strict {first : Option α} {second? : α → Option β}
    (come : ComesTo expected question wire first first.isNone after)
    (go : ∀ value,
      ComesTo expected (next value) after (second? value) (second? value).isNone after) :
    ComesTo expected (question >>= next) wire (first.bind second?)
      (first.bind second?).isNone after := by
  -- Where every fault derails, having no answer and derailing are the same.
  have whole := come.bind go
  cases first with
  | none => exact whole
  | some value => simpa using whole

/-- Items are asked about one by one, and the first without an answer derails. -/
private theorem comesTo_mapM_strict {ask : α → Exchange β} {answer? : α → Option β}
    (each : ∀ item, ComesTo expected (ask item) wire (answer? item) (answer? item).isNone wire)
    (items : List α) :
    ComesTo expected (items.mapM ask) wire (items.mapM answer?)
      (items.mapM answer?).isNone wire := by
  -- Each item is one strict step before the rest.
  induction items with
  | nil => exact comesTo_pure []
  | cons item rest ih =>
    rw [List.mapM_cons, List.mapM_cons]
    exact (each item).bind_strict fun value =>
      ih.bind_strict fun values => comesTo_pure (value :: values)

end Exchange

/-! ## Questions to the model -/

namespace Client

open Exchange

variable {α : Type} {expected : ClientFault → Bool}

/-- The faults of an exchange are expected, unless it breaks in no known way
or comes to no record. -/
structure Expects (expected : ClientFault → Bool) : Prop where
  lost : ∀ kind text, expected (.lost kind text) = true
  refused : ∀ status url, expected (.refused status url) = true
  unreadable : ∀ error, expected (.unreadable error) = true
  broken : ∀ text, expected (.broken text) = false
  misshapen : expected .misshapen = false

/-- The service expects what makes a reply unusable, and no more. -/
theorem expects_isUnusable : Expects ClientFault.isUnusable :=
  ⟨fun _ _ => rfl, fun _ _ => rfl, fun _ => rfl, fun _ => rfl, rfl⟩

/-- Where a list is asked for, the same faults of an exchange are expected. -/
theorem expects_isListFault : Expects Service.isListFault :=
  ⟨fun _ _ => rfl, fun _ _ => rfl, fun _ => rfl, fun _ => rfl, rfl⟩

/-- A request takes the next reply, and is noted as sent. -/
private theorem through_send (request : Request) (wire : Wire) :
    (send request).through wire = (wire.next.body request.url, (wire.send request).2) := by
  -- The reply is read off the wire before anything is made of it.
  have sent : (send request).through wire
      = (ofExcept (wire.next.body request.url) : Exchange String).through (wire.send request).2 :=
        rfl
  rw [sent]
  cases wire.next.body request.url <;> rfl

/-- A request derails only when the exchange breaks. -/
private theorem comesTo_send (expects : Expects expected) (request : Request) (wire : Wire) :
    ComesTo expected (send request) wire wire.next.text? wire.next.isBroken
      (wire.send request).2 := by
  -- The reply decides: it is lost, broken, refused or good.
  have sent := through_send request wire
  cases reply : wire.next with
  | lost kind text =>
    rw [reply] at sent
    exact comesTo_of_error sent (expects.lost kind text)
  | broken text =>
    rw [reply] at sent
    exact comesTo_of_error sent (expects.broken text)
  | response status body =>
    rw [reply] at sent
    by_cases success : Status.isSuccess status = true
    · rw [Reply.body, if_pos success] at sent
      rw [Reply.text?, if_pos success]
      exact .answer sent
    · rw [Reply.body, if_neg success] at sent
      rw [Reply.text?, if_neg success]
      exact comesTo_of_error sent (expects.refused status request.url)

/-- A body that cannot be read is expected. -/
private theorem comesTo_readBody (expects : Expects expected) (body : String) (wire : Wire) :
    ComesTo expected (readBody body) wire (Json.parse (withoutMark body)).toOption false wire := by
  -- The body is a value or it is not.
  unfold readBody
  cases Json.parse (withoutMark body) with
  | ok value => exact comesTo_pure value
  | error error => exact comesTo_throw (expects.unreadable error)

/-- A request finds the value in its reply. -/
private theorem comesTo_value (expects : Expects expected) (request : Request) (wire : Wire) :
    ComesTo expected (send request >>= readBody) wire wire.next.value? wire.next.isBroken
      (wire.send request).2 := by
  -- A body that is there and cannot be read does not derail.
  have come := (comesTo_send expects request wire).bind fun body => comesTo_readBody expects body _
  have calm : (wire.next.text?.any fun _ => false) = false := by cases wire.next.text? <;> rfl
  rwa [calm, Bool.or_false] at come

/-- What is made of the value in a reply decides what the whole question comes to. -/
private theorem comesTo_ask (expects : Expects expected) (request : Request) (wire : Wire)
    {next : Json → Exchange α} {answer? : Json → Option α} {unexpected : Json → Bool}
    (go : ∀ value wire,
      ComesTo expected (next value) wire (answer? value) (unexpected value) wire) :
    ComesTo expected (do next (← readBody (← send request))) wire (wire.next.value?.bind answer?)
      (wire.next.derails unexpected) (wire.send request).2 := by
  -- The value in the reply is one step, and what is made of it the next.
  have come := (comesTo_value expects request wire).bind fun value => go value (wire.send request).2
  rwa [bind_assoc] at come

/-- A field is asked of a record; any other value derails. -/
private theorem comesTo_fieldOf (expects : Expects expected) (value : Json) (key : String)
    (default : Json) (wire : Wire) :
    ComesTo expected (fieldOf value key default) wire (value.member? key default)
      (!value.isRecord) wire := by
  -- Only a record has fields.
  cases value with
  | obj fields => exact comesTo_pure _
  | _ => exact comesTo_throw expects.misshapen

/-- A value in a text is found or not, and neither derails. -/
private theorem comesTo_valueIn (answer : Json) (wire : Wire) :
    ComesTo Service.isListFault (valueIn answer) wire answer.embeddedValue? false wire := by
  -- Only a text can have a value in it.
  cases answer with
  | str text =>
    rw [valueIn, Json.embeddedValue?]
    cases embedded? text.toList with
    | none => exact comesTo_throw rfl
    | some found =>
      rw [Option.bind_some]
      dsimp only
      cases Json.parse (String.ofList found) with
      | ok value => exact comesTo_pure value
      | error error =>
        -- Both ways of telling it are expected.
        refine comesTo_throw ?_
        split <;> rfl
  | _ => exact comesTo_throw rfl

/-- The relevance of a record, when it is a number or stands for one. -/
def score? (item : Json) : Option Binary64 :=
  let value := item.fieldOrNull "relevance"
  if value.truthy then
    match value with
    | .int number => Binary64.ofInt? number
    | .float score => some score
    | .bool _ => some (Binary64.ofDecimal false 1 0)
    | .str text => numberInText? text.toList
    | _ => none
  else some .zero

/-- Whether the relevance of a record is an integer beyond all doubles. -/
def isTooRelevant (item : Json) : Bool :=
  match item.fieldOrNull "relevance" with
  | .int number => (Binary64.ofInt? number).isNone
  | _ => false

/-- A relevance is a number or not, and only an integer beyond all doubles derails. -/
private theorem comesTo_scoreOf (item : Json) (wire : Wire) :
    ComesTo Service.isListFault (scoreOf item) wire (score? item) (isTooRelevant item) wire := by
  -- The field may be missing, count as nothing, or be one of several kinds of values.
  unfold scoreOf score? isTooRelevant
  generalize item.fieldOrNull "relevance" = value
  dsimp only
  by_cases counts : value.truthy = true
  · rw [if_pos counts, if_pos counts]
    cases value with
    | int number =>
      dsimp only
      cases Binary64.ofInt? number with
      | some score => exact comesTo_pure score
      | none => exact comesTo_throw rfl
    | str text =>
      dsimp only
      cases numberInText? text.toList with
      | some score => exact comesTo_pure score
      | none => exact comesTo_throw rfl
    | float score => exact comesTo_pure score
    | bool value => exact comesTo_pure _
    | _ => exact comesTo_throw rfl
  · -- What counts as absent is zero, and zero is a double.
    rw [if_neg counts, if_neg counts]
    cases value with
    | int number =>
      have zero : number = 0 := by simpa [Json.truthy] using counts
      subst zero
      exact comesTo_pure _
    | _ => exact comesTo_pure _

/-- The ranking in a value. -/
def ranking? : Json → Option (List Json)
  | .arr items =>
    ((placed items).mapM fun item => (score? item).map fun score => (score, item)).map fun scored =>
      (sortDescending Prod.fst scored).map Prod.snd
  | _ => none

/-- Whether the first record without a relevance that can be used has one beyond all doubles. -/
def overflows : Json → Bool
  | .arr items => ((placed items).find? fun item => (score? item).isNone).any isTooRelevant
  | _ => false

/-- The summaries in a value. -/
def summaries? : Json → Option (List Json)
  | .arr items => some (placed items)
  | _ => none

/-- A ranking is read from a list of records. -/
theorem comesTo_rankings (value : Json) (wire : Wire) :
    ComesTo Service.isListFault (rankings value) wire (ranking? value) (overflows value) wire := by
  -- Only a list can be a ranking.
  cases value with
  | arr items =>
    -- Each record is kept with its score.
    have each (item : Json) : ComesTo Service.isListFault (do return (← scoreOf item, item)) wire
        ((score? item).map fun score => (score, item)) (isTooRelevant item) wire := by
      have come := (comesTo_scoreOf item wire).map fun score => (score, item)
      rwa [← bind_pure_comp] at come
    -- The scored records are ordered when all of them have a score.
    have come :=
      (comesTo_mapM each (placed items)).map fun scored =>
        (sortDescending Prod.fst scored).map Prod.snd
    rw [← bind_pure_comp] at come
    simp only [Option.isNone_map] at come
    exact come
  | _ => exact comesTo_throw rfl

/-- Summaries are read from a list, and nothing of them derails. -/
private theorem comesTo_summaries (value : Json) (wire : Wire) :
    ComesTo Service.isListFault (summaries value) wire (summaries? value) false wire := by
  -- Only a list can hold summaries.
  cases value with
  | arr items => exact comesTo_pure (placed items)
  | _ => exact comesTo_throw rfl

/-- The field in which the model answers. -/
def answer? (value : Json) : Option Json :=
  value.member? "response" (.str "")

/-- The list of records in an answer, read as told. -/
def listed? (read? : Json → Option (List Json)) (value : Json) : Option (List Json) :=
  ((answer? value).bind Json.embeddedValue?).bind read?

/-- Whether a value is no record, or an answer with a ranking beyond all doubles. -/
def isUnexpected (overflows : Json → Bool) (value : Json) : Bool :=
  !value.isRecord || ((answer? value).bind Json.embeddedValue?).any overflows

/-- The answer of the model is looked for in the reply to its prompt. -/
theorem comesTo_generate (expects : Expects expected) (settings : AssistantSettings)
    {completion : Completion}
    (writable : (isWritable completion.temperature && isWritable completion.topP) = true)
    (wire : Wire) :
    ComesTo expected (generate settings completion) wire (wire.next.value?.bind answer?)
      (wire.next.derails fun value => !value.isRecord)
        (wire.send (completionRequest settings completion)).2 := by
  -- The temperatures can be written, so the request is sent.
  unfold generate
  rw [writable]
  exact comesTo_ask expects _ wire fun value wire =>
    comesTo_fieldOf expects value "response" (.str "") wire

/-- The temperatures of a question for a value can be written. -/
theorem isWritable_valueCompletion (prompt : String) (maxTokens : Int) :
    let completion := valueCompletion prompt maxTokens
    (isWritable completion.temperature && isWritable completion.topP) = true := by
  change (isWritable (.float (Binary64.ofDecimal false 5 (-2)))
    && isWritable (.float (Binary64.ofDecimal false 9 (-1)))) = true
  decide

/-- A question for a list of records looks for it in the answer of the model. -/
theorem comesTo_list {read : Json → Exchange (List Json)} {read? : Json → Option (List Json)}
    {overflows : Json → Bool}
    (go : ∀ value wire, ComesTo Service.isListFault (read value) wire (read? value)
      (overflows value) wire) (settings : AssistantSettings) (prompt : String) (maxTokens : Int)
    (wire : Wire) :
    ComesTo Service.isListFault (do read (← generateJson settings prompt maxTokens)) wire
      (wire.next.value?.bind (listed? read?)) (wire.next.derails (isUnexpected overflows))
      (wire.send (completionRequest settings (valueCompletion prompt maxTokens))).2 := by
  have generated :=
    comesTo_generate expects_isListFault settings (isWritable_valueCompletion prompt maxTokens) wire
  -- Three steps: the answer of the model, the value in it, and the list that it is read as.
  have come := (generated.bind fun answer => comesTo_valueIn answer _).bind fun value => go value _
  have answers : ((wire.next.value?.bind answer?).bind Json.embeddedValue?).bind read?
      = wire.next.value?.bind (listed? read?) := by
    cases wire.next.value? <;> rfl
  -- Only a reply without a record or a ranking beyond all doubles derails the three steps.
  have derails : ((wire.next.derails fun value => !value.isRecord)
        || ((wire.next.value?.bind answer?).any fun _ => false)
        || ((wire.next.value?.bind answer?).bind Json.embeddedValue?).any overflows)
      = wire.next.derails (isUnexpected overflows) := by
    unfold Reply.derails
    cases wire.next.value? with
    | none => simp
    | some value =>
      have calm : ((answer? value).any fun _ => false) = false := by cases answer? value <;> rfl
      simp [isUnexpected, calm, Bool.or_assoc]
  rwa [answers, derails] at come

/-! ## The models of a server -/

/-- Lists, texts and records have items; any other value derails. -/
private theorem comesTo_itemsOf (value : Json) (wire : Wire) :
    ComesTo ClientFault.isUnusable (itemsOf value) wire value.items? value.items?.isNone wire := by
  -- The items are those of a list, the characters of a text, or the keys of a record.
  cases value with
  | arr items => exact comesTo_pure items
  | str text => exact comesTo_pure _
  | obj fields => exact comesTo_pure _
  | _ => exact comesTo_throw rfl

/-- The names of the models that a value lists. -/
def names? (value : Json) : Option (List Json) :=
  ((value.member? "models" (.arr [])).bind Json.items?).bind fun listed =>
    listed.mapM fun model => model.member? "name" (.str "")

/-- Whether a name decides the search for a family: it is of the family, or no text. -/
def isDecisive (family : List Char) : Json → Bool
  | .str name => startsWith family name.toList
  | _ => true

/-- Whether a family is among names, unless a name that is no text comes first. -/
def familyFound? (family : List Char) (names : List Json) : Option Bool :=
  match names.find? (isDecisive family) with
  | none => some false
  | some name => if name.isText then some true else none

/-- Whether a value does not list models, or has a name that is no text where
a family is looked for. -/
def isUnlisted (family : List Char) (value : Json) : Bool :=
  !(names? value).any fun names => family.isEmpty || (familyFound? family names).isSome

/-- A value that lists no models derails the question for them. -/
private theorem comesTo_models (settings : AssistantSettings) (wire : Wire) :
    ComesTo ClientFault.isUnusable (models settings) wire (wire.next.value?.bind names?)
      (wire.next.derails fun value => (names? value).isNone)
        (wire.send (modelsRequest settings)).2 := by
  -- The value in the reply must be a record with models, each of them a record with a name.
  apply comesTo_ask expects_isUnusable
  intro value wire
  -- A missing field has something that stands for it, so only records count.
  have field (record : Json) (key : String) (default : Json) :
      ComesTo ClientFault.isUnusable (fieldOf record key default) wire (record.member? key default)
        (record.member? key default).isNone wire := by
    have come := comesTo_fieldOf expects_isUnusable record key default wire
    cases record <;> exact come
  have listed :=
    (field value "models" (.arr [])).bind_strict fun found => comesTo_itemsOf found wire
  have come :=
    listed.bind_strict fun items =>
      comesTo_mapM_strict (fun model => field model "name" (.str "")) items
  rwa [bind_assoc] at come

/-- A family is looked for up to the first name that decides. -/
private theorem comesTo_hasFamily (family : List Char) (names : List Json) (wire : Wire) :
    ComesTo ClientFault.isUnusable (hasFamily family names) wire (familyFound? family names)
      (familyFound? family names).isNone wire := by
  -- A name that is a text and of another family is passed over.
  induction names with
  | nil => exact comesTo_pure false
  | cons name rest ih =>
    rw [familyFound?, List.find?_cons]
    cases name with
    | str text =>
      rw [hasFamily, isDecisive]
      cases startsWith family text.toList with
      | true => exact comesTo_pure true
      | false => exact ih
    | _ => exact comesTo_throw rfl

/-- An attempt at a question that has an answer has it too. -/
private theorem through_attempt_of_ok {question : Exchange α} {wire after : Wire} {value : α}
    (answered : question.through wire = (.ok value, after)) :
    (attempt question).through wire = (.ok (.ok value), after) := by
  -- The answer is wrapped before the handler could see a fault.
  have mapped : (Except.ok <$> question : Exchange (Except String α)).through wire
      = (.ok (.ok value), after) := by
    rw [← bind_pure_comp]
    exact through_bind_of_ok answered
  exact through_tryCatch_of_ok mapped

/-- An attempt at a question that fails tells the fault, if it makes the reply unusable. -/
private theorem through_attempt_of_error {question : Exchange α} {wire after : Wire}
    {fault : ClientFault} (failed : question.through wire = (.error fault, after)) :
    (attempt question).through wire
      = (if fault.isUnusable then .ok (.error fault.message) else .error fault, after) := by
  -- The fault reaches the handler.
  have mapped : (Except.ok <$> question : Exchange (Except String α)).through wire
      = (.error fault, after) := by
    rw [← bind_pure_comp]
    exact through_bind_of_error failed
  rw [attempt, through_tryCatch_of_error mapped]
  cases fault.isUnusable <;> rfl

/-- An attempt has an answer, unless the question derails. -/
private theorem comesTo_attempt {question : Exchange α} {wire after : Wire} {found : Option α}
    {derailed : Bool} (come : ComesTo ClientFault.isUnusable question wire found derailed after) :
    ∃ tried, ComesTo ClientFault.isUnusable (attempt question) wire tried tried.isNone after ∧
      tried.isNone = derailed ∧ tried.bind Except.toOption = found := by
  -- Expected faults become an outcome of their own, any other is passed on.
  cases come with
  | @answer value _ answered =>
    refine ⟨some (.ok value), ?_, rfl, rfl⟩
    exact .answer (through_attempt_of_ok answered)
  | @fault fault _ failed =>
    have tried := through_attempt_of_error failed
    cases expected : fault.isUnusable with
    | true =>
      rw [expected] at tried
      refine ⟨some (.error fault.message), ?_, rfl, rfl⟩
      exact .answer tried
    | false =>
      rw [expected] at tried
      refine ⟨none, ?_, rfl, rfl⟩
      exact comesTo_of_error tried expected

/-- What the outcome of an attempt at the models tells of the server. -/
def healthOf? (family : List Char) : Except String (List Json) → Option Health
  | .error reason => some (.down reason)
  | .ok names =>
    if family.isEmpty then some (.up names false) else (familyFound? family names).map (.up names)

/-- A list of names tells nothing only where a family is looked for in vain. -/
private theorem isNone_healthOf?_ok (family : List Char) (names : List Json) :
    (healthOf? family (.ok names)).isNone
      = !(family.isEmpty || (familyFound? family names).isSome) := by
  -- Whether a family is looked for, and whether it is found, are two questions.
  rw [healthOf?]
  cases family.isEmpty <;> cases familyFound? family names <;> rfl

/-- The server is up when the attempt at its models had an outcome. -/
private theorem isUp_of_healthOf? {family : List Char} {outcome : Except String (List Json)}
    {health : Health} (told : healthOf? family outcome = some health) :
    health.isUp = outcome.toOption.isSome := by
  -- The outcome decides, whatever family is looked for.
  cases outcome with
  | error reason =>
    cases told
    rfl
  | ok names =>
    rw [healthOf?] at told
    split at told
    · cases told
      rfl
    · obtain ⟨found, -, rfl⟩ := Option.map_eq_some_iff.mp told
      rfl

/-- The server is up when its reply lists models. -/
theorem comesTo_health (settings : AssistantSettings) (wire : Wire) :
    ∃ told, ComesTo ClientFault.isUnusable (health settings) wire told told.isNone
        (wire.send (modelsRequest settings)).2 ∧
      told.isNone = wire.next.derails (isUnlisted (family settings)) ∧
      ∀ health, told = some health → health.isUp = (wire.next.value?.bind names?).isSome := by
  -- First the models are asked for, and then their names are looked through.
  obtain ⟨tried, attempted, derails, answers⟩ := comesTo_attempt (comesTo_models settings wire)
  refine ⟨tried.bind (healthOf? (family settings)), attempted.bind_strict ?_, ?_, ?_⟩
  · -- What is made of the outcome sends nothing.
    intro outcome
    cases outcome with
    | error reason => exact comesTo_pure _
    | ok names =>
      rw [healthOf?]
      cases (family settings).isEmpty with
      | true => exact comesTo_pure _
      | false =>
        rw [if_neg (by decide), Option.map_eq_bind]
        exact (comesTo_hasFamily (family settings) names _).bind_strict fun found =>
          comesTo_pure (Health.up names found)
  · -- The question derails when the attempt does, or when the family cannot be looked for.
    unfold Reply.derails at derails ⊢
    cases reply : wire.next.value? with
    | none =>
      rw [reply] at derails answers
      rcases tried with - | (reason | names)
      · exact derails
      · exact derails
      · cases answers
    | some value =>
      rw [reply, Option.any_some] at derails
      rw [reply, Option.bind_some] at answers
      rw [Option.any_some, isUnlisted]
      cases listed : names? value with
      | none =>
        rw [listed, Option.isNone_none, Bool.or_true, Option.isNone_iff_eq_none] at derails
        simp [derails]
      | some names =>
        rw [listed, Option.isNone_some, Bool.or_false] at derails
        rw [listed] at answers
        rcases tried with - | (reason | names)
        · cases answers
        · cases answers
        · cases answers
          rw [← derails, Option.bind_some, isNone_healthOf?_ok]
          simp
  · -- The server is told to be up exactly when there are names.
    intro health told
    obtain ⟨outcome, rfl, gives⟩ := Option.bind_eq_some_iff.mp told
    rw [← answers, Option.bind_some]
    exact isUp_of_healthOf? gives

/-! ## Passages -/

/-- Passages that have paths and contents can be sent, and others fail before anything is sent. -/
private theorem through_passageBlocks (passages : List Passage) (wire : Wire) :
    (passages.all Passage.isComplete = true →
      ∃ blocks, (passageBlocks passages).through wire = (.ok blocks, wire)) ∧
      (passages.all Passage.isComplete = false →
        (passageBlocks passages).through wire = (.error .incomplete, wire)) := by
  -- The numbers play no part, so the count may start anywhere.
  have general : ∀ start : Nat,
      let sent := (passages.zipIdx start).mapM fun numbered =>
        passageBlock (toString (numbered.2 + 1)) numbered.1
      (passages.all Passage.isComplete = true → ∃ blocks, through sent wire = (.ok blocks, wire)) ∧
        (passages.all Passage.isComplete = false →
          through sent wire = (.error .incomplete, wire)) := by
    induction passages with
    | nil => exact fun _ => ⟨fun _ => ⟨[], rfl⟩, fun no => by cases no⟩
    | cons passage rest ih =>
      intro start
      obtain ⟨whole, broken⟩ := ih (start + 1)
      dsimp only
      rw [List.zipIdx_cons, List.mapM_cons, List.all_cons]
      obtain ⟨path, content⟩ := passage
      cases path with
      | none => exact ⟨(fun no => by cases no), fun _ => rfl⟩
      | some path =>
        cases content with
        | none => exact ⟨(fun no => by cases no), fun _ => rfl⟩
        | some content =>
          constructor
          · intro complete
            obtain ⟨blocks, sent⟩ := whole complete
            exact ⟨_ :: blocks, (through_bind_of_ok rfl).trans (through_bind_of_ok sent)⟩
          · intro incomplete
            exact (through_bind_of_ok rfl).trans (through_bind_of_error (broken incomplete))
  exact general 0

/-- A question for summaries of complete passages looks for them in the answer of the model. -/
theorem comesTo_summarize (settings : AssistantSettings) {passages : List Passage}
    (complete : passages.all Passage.isComplete = true) (task : String) (wire : Wire) :
    ∃ prompt, ComesTo Service.isListFault (summarize settings passages task) wire
      (wire.next.value?.bind (listed? summaries?)) (wire.next.derails (isUnexpected fun _ => false))
      (wire.send (completionRequest settings (valueCompletion prompt 1000))).2 := by
  -- The passages are written into the prompt before anything is sent.
  obtain ⟨blocks, sent⟩ := (through_passageBlocks passages wire).1 complete
  refine ⟨summaryPrompt blocks task, ?_⟩
  exact (comesTo_list comesTo_summaries settings (summaryPrompt blocks task) 1000 wire).of_through
    (through_bind_of_ok sent)

/-- A question for summaries of passages that lack something fails at once. -/
theorem comesTo_summarize_incomplete (settings : AssistantSettings) {passages : List Passage}
    (incomplete : passages.all Passage.isComplete = false) (task : String) (wire : Wire) :
    ComesTo Service.isListFault (summarize settings passages task) wire none true wire := by
  -- The passages are looked at first, so nothing is sent.
  have failed := (through_passageBlocks passages wire).2 incomplete
  exact comesTo_of_error (through_bind_of_error failed) rfl

end Client

end SourceAtlas
