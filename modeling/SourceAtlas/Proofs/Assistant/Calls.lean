import SourceAtlas.Proofs.Assistant.Replies

/-! Calls of the assistant on a server, one after the other: which of them go to the server, what
they tell of its replies, and which of them fail in a way that nobody expects. -/

namespace SourceAtlas

/-- A call of the assistant on a server. -/
inductive Call where
  | start
  | generate (prompt : String) (maxTokens : Int)
  | rank (paths : List String) (task : String)
  | summarize (passages : List Passage) (task : String)

namespace Call

/-- What a call reads from the value in a reply. -/
def read? : Call → Json → Option Json
  | start, value => (Client.names? value).map .arr
  | generate _ _, value => Client.answer? value
  | rank _ _, value => (Client.listed? Client.ranking? value).map .arr
  | summarize _ _, value => (Client.listed? Client.summaries? value).map .arr

/-- Whether a call does not expect a value of its shape in a reply. -/
def isUnexpected (settings : AssistantSettings) : Call → Json → Bool
  | start => Client.isUnlisted (Client.family settings)
  | generate _ _ => fun value => !value.isRecord
  | rank _ _ => Client.isUnexpected Client.overflows
  | summarize _ _ => Client.isUnexpected fun _ => false

end Call

/-- What a call returns. -/
inductive CallResult where
  | status (status : ServiceStatus)
  | answer (answer : Option Json)

/-- A call tells what was found in a reply: the answer, or whether the server can be used. -/
def CallResult.Tells (found : Option Json) : CallResult → Prop
  | status told => told.available = found.isSome
  | answer told => told = found

namespace Service

/-- The outcome of a call, and the service after it. -/
def perform (service : Service) : Call → Except ClientFault CallResult × Service
  | .start => service.start.map (Except.map .status) id
  | .generate prompt maxTokens => (service.generate prompt maxTokens).map (Except.map .answer) id
  | .rank paths task => (service.rank paths task).map (Except.map .answer) id
  | .summarize passages task => (service.summarize passages task).map (Except.map .answer) id

/-- The service after calls. -/
def after (service : Service) (calls : List Call) : Service :=
  calls.foldl (fun service call => (service.perform call).2) service

/-- The outcomes of calls. -/
def outcomes (service : Service) : List Call → List (Except ClientFault CallResult)
  | [] => []
  | call :: calls => (service.perform call).1 :: (service.perform call).2.outcomes calls

/-- Whether the server can be used, and a question has no kept answer. -/
def isOpen (service : Service) (key : String) : Bool :=
  service.isAvailable && (service.answers.get? key).isNone

/-- Whether a call goes to the server. -/
def asks (service : Service) : Call → Bool
  | .start => !service.initialized && service.settings.enabled
  | .generate prompt maxTokens => service.isOpen (generateKey prompt maxTokens)
  | .rank paths task => !paths.isEmpty && service.isOpen (rankKey paths task)
  | .summarize passages task => !passages.isEmpty && passages.all Passage.isComplete &&
      (summaryKey? passages task).any service.isOpen

/-- Whether a call has passages that the server is to be asked about and that
lack a path or content. -/
def lacks (service : Service) : Call → Bool
  | .summarize passages task =>
    !passages.isEmpty && service.isAvailable && match summaryKey? passages task with
      | none => true
      | some key => service.isOpen key && !passages.all Passage.isComplete
  | _ => false

/-- Whether a call fails in a way that nobody expects. -/
def derails (service : Service) (call : Call) : Bool :=
  service.lacks call || service.asks call && service.wire.next.derails
    (call.isUnexpected service.settings)

/-- What a call finds in the next reply. -/
def found? (service : Service) (call : Call) : Option Json :=
  service.wire.next.value?.bind call.read?

/-- An outcome is an error when the call derails, and else tells what was found by a call
that went to the server. -/
inductive Conforms (asked : Bool) (found : Option Json) :
    Bool → Except ClientFault CallResult → Prop
  | error (fault : ClientFault) : Conforms asked found true (.error fault)
  | ok {result : CallResult} (tells : asked = true → result.Tells found) : Conforms asked found
      false (.ok result)

/-- An outcome that need not tell anything. -/
theorem Conforms.unasked {asked derailed : Bool} {found : Option Json}
    {outcome : Except ClientFault CallResult} (conforms : Conforms asked found derailed outcome)
    (other : Option Json) :
    Conforms false other derailed outcome := by
  -- The outcome stays, and there is nothing that it would have to tell.
  cases conforms with
  | error fault => exact .error fault
  | ok _ => exact .ok fun no => by cases no

variable {service : Service} {expected : ClientFault → Bool} {question : Exchange Json}
  {found : Option Json} {derailed : Bool} {last : Wire}

/-- An exchange of a service is the exchange over its wire. -/
theorem exchange_of_through {α : Type} {question : Exchange α} {outcome : Except ClientFault α}
    (asked : question.through service.wire = (outcome, last)) :
    service.exchange question = (outcome, { service with wire := last }) := by
  -- The service takes over the wire as the exchange leaves it.
  rw [exchange, show question.run.run service.wire = _ from asked]

/-- A question without a kept answer takes what it finds, unless it derails. -/
private theorem conforms_answer {key : String} (new : service.answers.get? key = none)
    (come : question.ComesTo expected service.wire found derailed last) :
    Conforms true found derailed ((service.answer key expected question).1.map .answer) := by
  -- There is nothing to give at once, so what the exchange comes to counts.
  unfold answer
  rw [new]
  cases come with
  | answer answered =>
    rw [exchange_of_through answered]
    exact .ok fun _ => rfl
  | @fault fault _ failed =>
    rw [exchange_of_through failed]
    dsimp only
    -- A fault that is expected is told as no answer, any other is passed on.
    cases expected fault with
    | true => exact .ok fun _ => rfl
    | false => exact .error fault

/-- A question goes to the server when that can be used and there is no kept answer. -/
theorem conforms_question (key : String)
    (come : question.ComesTo expected service.wire found derailed last) :
    Conforms (service.isOpen key) found (service.isOpen key && derailed)
      ((if service.isAvailable then service.answer key expected question
        else (.ok none, service)).1.map .answer) := by
  -- The question reaches the server only past both tests.
  cases available : service.isAvailable with
  | false =>
    rw [isOpen, available]
    exact .ok fun no => by cases no
  | true =>
    rw [isOpen, available]
    cases kept : service.answers.get? key with
    | some value =>
      rw [if_pos rfl, answer, kept]
      exact .ok fun no => by cases no
    | none => exact conforms_answer kept come

/-- The usual temperatures can be written. -/
theorem isWritable_usual (prompt : String) (maxTokens : Int) :
    let completion : Completion := { prompt, maxTokens }
    (Client.isWritable completion.temperature && Client.isWritable completion.topP) = true := by
  change (Client.isWritable (.float (Binary64.ofDecimal false 1 (-1)))
    && Client.isWritable (.float (Binary64.ofDecimal false 9 (-1)))) = true
  decide

/-- A completion conforms, for its values can be written. -/
private theorem conforms_generate (service : Service) (prompt : String) (maxTokens : Int) :
    let call := Call.generate prompt maxTokens
    Conforms (service.asks call) (service.found? call) (service.derails call)
      (service.perform call).1 := by
  -- The key is looked up first, and the exchange is the one for completions.
  have come := Client.comesTo_generate Client.expects_isUnusable service.settings
    (isWritable_usual prompt maxTokens) service.wire
  exact conforms_question _ come

/-- A ranking conforms, also one of nothing at all. -/
private theorem conforms_rank (service : Service) (paths : List String) (task : String) :
    let call := Call.rank paths task
    Conforms (service.asks call) (service.found? call) (service.derails call)
      (service.perform call).1 := by
  have come := (Client.comesTo_list Client.comesTo_rankings service.settings
    (Client.rankingPrompt paths task) 800 service.wire).map Json.arr
  -- Without paths there is no question; else it is one for a list.
  rw [Option.map_bind] at come
  cases paths with
  | nil => exact .ok fun no => by cases no
  | cons path paths => exact conforms_question _ come

/-- Summaries conform; passages that lack something make the call fail where it would ask. -/
private theorem conforms_summarize (service : Service) (passages : List Passage) (task : String) :
    let call := Call.summarize passages task
    Conforms (service.asks call) (service.found? call) (service.derails call)
      (service.perform call).1 := by
  -- Three things can keep the call from the server: no passages, no key, or a passage that lacks
  -- content.
  dsimp only [perform, derails, lacks, asks]
  unfold summarize
  cases passages with
  | nil => exact .ok fun no => by cases no
  | cons passage rest =>
    simp only [List.isEmpty_cons, Bool.not_false, Bool.true_and, Bool.false_eq_true, if_false]
    cases summaryKey? (passage :: rest) task with
    | none =>
      simp only [Option.any_none, Bool.and_false, Bool.false_and, Bool.or_false, Bool.and_true]
      cases service.isAvailable with
      | false => exact .ok fun no => by cases no
      | true => exact .error .incomplete
    | some key =>
      -- An open key is one of a server that can be used.
      have narrow : (service.isAvailable && service.isOpen key) = service.isOpen key := by
        rw [isOpen]
        cases service.isAvailable <;> rfl
      cases complete : (passage :: rest).all Passage.isComplete with
      | true =>
        obtain ⟨prompt, come⟩ :=
          Client.comesTo_summarize service.settings complete task service.wire
        have mapped := come.map Json.arr
        rw [Option.map_bind] at mapped
        simp only [Option.any_some, Bool.true_and, Bool.not_true, Bool.and_false, Bool.false_or]
        exact conforms_question key mapped
      | false =>
        -- The exchange fails before it sends anything, so nothing is asked of the server.
        have mapped :=
          (Client.comesTo_summarize_incomplete service.settings complete task service.wire).map
            Json.arr
        have unasked :=
          (conforms_question key mapped).unasked
            (service.found? (.summarize (passage :: rest) task))
        simp only [Option.any_some, Bool.false_and, Bool.not_false, Bool.and_true, Bool.or_false,
          narrow]
        rwa [Bool.and_true] at unasked

/-- What is known of a server is whether it is up. -/
private theorem available_learn (service : Service) (health : Health) :
    (service.learn health).available = health.isUp := by
  cases health <;> rfl

/-- Looking for the server conforms, and it is looked for once only. -/
private theorem conforms_start (service : Service) :
    Conforms (service.asks .start) (service.found? .start) (service.derails .start)
      (service.perform .start).1 := by
  dsimp only [perform, derails, lacks, asks]
  unfold start
  -- A service that has looked or that is switched off does not go to the server.
  cases service.initialized with
  | true => exact .ok fun no => by cases no
  | false =>
    dsimp only
    cases service.settings.enabled with
    | false => exact .ok fun no => by cases no
    | true =>
      -- The reply to the question for the models decides.
      obtain ⟨told, come, derails, up⟩ := Client.comesTo_health service.settings service.wire
      obtain ⟨outcome, asked, tells⟩ := come.through_eq
      have exchanged : Service.exchange { service with initialized := true } _ = _ :=
        exchange_of_through asked
      simp only [Bool.not_false, Bool.true_and, Bool.false_or, Bool.not_true, Bool.false_eq_true,
        if_false]
      rw [Call.isUnexpected, ← derails, ← tells, exchanged]
      cases outcome with
      | error fault => exact .error fault
      | ok health =>
        -- The server can be used exactly when the names of its models were found.
        refine .ok fun _ => ?_
        have names : service.found? .start
            = (service.wire.next.value?.bind Client.names?).map .arr := by
          rw [Option.map_bind]
          rfl
        rw [CallResult.Tells, available_learn, up health tells.symm, names, Option.isSome_map]

/-- What a call comes to, whatever the service is and whatever the server replies. -/
private theorem conforms_perform (service : Service) (call : Call) :
    Conforms (service.asks call) (service.found? call) (service.derails call)
      (service.perform call).1 := by
  -- Each kind of call was looked at on its own.
  cases call with
  | start => exact conforms_start service
  | generate prompt maxTokens => exact conforms_generate service prompt maxTokens
  | rank paths task => exact conforms_rank service paths task
  | summarize passages task => exact conforms_summarize service passages task

/-- The outcomes of calls are what each of them comes to where it stands. -/
theorem mem_outcomes_iff (service : Service) (calls : List Call)
    (outcome : Except ClientFault CallResult) :
    outcome ∈ service.outcomes calls ↔
      ∃ early call late, calls = early ++ call :: late ∧
      outcome = ((service.after early).perform call).1 := by
  -- The service after the first call stands in for the one at the start, so it stays quantified
  -- over.
  induction calls generalizing service with
  | nil => simp [outcomes]
  | cons first rest ih =>
    rw [outcomes, List.mem_cons, ih]
    constructor
    · rintro (rfl | ⟨early, call, late, rfl, rfl⟩)
      · exact ⟨[], first, rest, rfl, rfl⟩
      · exact ⟨first :: early, call, late, rfl, rfl⟩
    · rintro ⟨early, call, late, split, rfl⟩
      cases early with
      | nil =>
        obtain ⟨rfl, rfl⟩ := List.cons.inj split
        exact .inl rfl
      | cons before early =>
        obtain ⟨rfl, rfl⟩ := List.cons.inj split
        exact .inr ⟨early, call, late, rfl, rfl⟩

/-- Calls return exactly when none derails where it stands, and one that goes to the
server and returns tells what it finds in the reply: nothing where the request fails or
the reply cannot be used. -/
theorem calls_return_iff (service : Service) (calls : List Call) :
    ((∀ outcome ∈ service.outcomes calls, ∃ result, outcome = .ok result) ↔
      ∀ early call late, calls = early ++ call :: late →
        (service.after early).derails call = false) ∧
    ∀ early call result, let now := service.after early
      now.asks call = true → (now.perform call).1 = .ok result →
        result.Tells (now.found? call) := by
  -- A single call returns exactly when it does not derail.
  have step (service : Service) (call : Call) :
      (∃ result, (service.perform call).1 = .ok result) ↔ service.derails call = false := by
    have conforms := conforms_perform service call
    generalize service.derails call = derailed, (service.perform call).1 = outcome at conforms ⊢
    cases conforms <;> simp
  constructor
  · constructor
    · intro returns early call late split
      apply (step _ call).mp
      exact returns _ ((mem_outcomes_iff ..).mpr ⟨early, call, late, split, rfl⟩)
    · intro smooth outcome member
      obtain ⟨early, call, late, split, rfl⟩ := (mem_outcomes_iff ..).mp member
      exact (step _ call).mpr (smooth early call late split)
  · -- A call that went to the server and returned tells what it found.
    intro early call result now asked returned
    have conforms := conforms_perform now call
    generalize now.derails call = derailed at conforms
    rw [returned] at conforms
    cases conforms with
    | ok tells => exact tells asked

/-- A server that is there and answers a question with a list makes the call fail. -/
theorem generate_fails_on_list :
    let service : Service :=
      { settings := { model := some "m" }
        wire := ⟨[.response 200 "\x7b\"models\": []\x7d", .response 200 "[]"], []⟩ }
    (service.outcomes [.start, .generate "p" 256]).map Except.isOk = [true, false] := by
  decide +kernel

end Service

end SourceAtlas
