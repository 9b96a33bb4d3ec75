import SourceAtlas.Proofs.Assistant.Answers

/-! The requests that the assistant on a server sends: the server is looked for once, nothing is
asked of one that cannot be used, and no question is sent again once it has an answer. -/

namespace SourceAtlas

namespace Service

/-- What a service that started fresh has sent: nothing, or the question for the models and then, of
a server that can be used, questions to the model. -/
inductive Orderly (settings : AssistantSettings) (replies : List Reply) (service : Service) : Prop
  | untouched (same : service = fresh settings ⟨replies, []⟩)
  | disabled (isSet : service.settings = settings) (done : service.initialized = true)
      (unusable : service.available = false) (silent : service.wire.sent = [])
  | started (isSet : service.settings = settings) (done : service.initialized = true)
      (posts : List Request)
      (log : service.wire.sent = Client.modelsRequest settings :: posts)
      (posted : ∀ post ∈ posts, post.body.isSome = true)
      (usable : service.available = true → (replies.headD Wire.silence).listsModels settings = true)
      (quiet : service.available = false → posts = [])

variable {settings : AssistantSettings} {replies : List Reply} {service : Service} {call : Call}

/-- A question goes to the server only when that was found. -/
private theorem available_of_asks (question : call.isQuestion = true)
    (asks : service.asks call = true) :
    service.initialized = true ∧ service.available = true := by
  -- The key of the question is open, which takes a server that can be used.
  obtain ⟨key, -, open_, -⟩ := asked_of_asks question asks
  exact Bool.and_eq_true_iff.mp (isOpen_iff.mp open_).1

/-- A question keeps the order of requests. -/
theorem Orderly.question (orderly : Orderly settings replies service)
    (question : call.isQuestion = true) :
    Orderly settings replies (service.perform call).2 := by
  cases asks : service.asks call with
  | false =>
    -- A question that is answered from memory, or not at all, leaves the service as it was.
    rw [unchanged_of_not_asks question asks]
    exact orderly
  | true =>
    -- Only a server that was found is asked, so the service has looked for it.
    obtain ⟨done, found⟩ := available_of_asks question asks
    obtain ⟨wire, answers, left, ⟨idle, -⟩ | ⟨-, request, posts, rfl⟩⟩ :=
      service.perform_question question
    · rw [asks] at idle
      cases idle
    · rw [left]
      cases orderly with
      | untouched same =>
        rw [same] at done
        cases done
      | disabled isSet done unusable silent =>
        rw [unusable] at found
        cases found
      | started isSet done earlier log posted usable quiet =>
        -- The request goes behind those that were sent before.
        refine .started isSet done (earlier ++ [request]) ?_ ?_ usable ?_
        · show service.wire.sent ++ [request] = _
          rw [log, List.cons_append]
        · intro post member
          rcases List.mem_append.mp member with member | member
          · exact posted post member
          · rw [List.mem_singleton.mp member]
            exact posts
        · intro unusable
          rw [show service.available = false from unusable] at found
          cases found

/-- Looking for the server keeps the order of requests. -/
theorem Orderly.start (orderly : Orderly settings replies service) :
    Orderly settings replies (service.perform .start).2 := by
  generalize service.perform .start = result, service.started_perform = started
  cases orderly with
  | untouched same =>
    subst same
    cases started with
    | known done => cases done
    | disabled new off => exact .disabled rfl rfl rfl rfl
    | failed new on fault unusable =>
      exact .started rfl rfl [] rfl (by simp) (fun no => by cases no) (fun _ => rfl)
    | told new on reason => exact .started rfl rfl [] rfl (by simp) id (fun _ => rfl)
  -- A service that has looked for the server once does not look again.
  | disabled isSet done unusable silent =>
    cases started with
    | known _ => exact .disabled isSet done unusable silent
    | _ new =>
      rw [done] at new
      cases new
  | started isSet done posts log posted usable quiet =>
    cases started with
    | known _ => exact .started isSet done posts log posted usable quiet
    | _ new =>
      rw [done] at new
      cases new

/-- Every run keeps the order of requests. -/
theorem Orderly.after (orderly : Orderly settings replies service) (calls : List Call) :
    Orderly settings replies (service.after calls) := by
  -- The service changes with every call, so it stays quantified over.
  induction calls generalizing service with
  | nil => exact orderly
  | cons call calls ih =>
    rw [after_cons]
    apply ih
    cases question : call.isQuestion with
    | true => exact orderly.question question
    | false =>
      cases call with
      | start => exact orderly.start
      | _ => cases question

/-- A question that has obtained an answer is given the same one again, and nothing changes. -/
private theorem perform_again {wire : Wire} {early between : List Call} {value : Json}
    (obtains : ((fresh settings wire).after early).Obtains call value) :
    let now := (fresh settings wire).after (early ++ call :: between)
    now.perform call = (.ok (.answer (some value)), now) := by
  -- The question resembles itself, so it is given what is kept for it.
  obtain ⟨key, isKey, -⟩ := obtains.isOpen
  have similar : call.Resembles call := Call.resembles_iff.mpr ⟨key, isKey, isKey⟩
  exact perform_of_kept? (kept?_after_iff.mpr ⟨early, call, between, rfl, obtains, similar⟩)

/-- What is told of a server once a look for it had an outcome: the same, but for the model, and
that it cannot be used when the look broke off. -/
def remembered : Except ClientFault CallResult → ServiceStatus
  | .ok (.status status) => { status with model := none }
  | _ => ⟨false, none, none⟩

/-- A service that has not looked for the server is as it was. -/
theorem Orderly.eq_fresh (orderly : Orderly settings replies service)
    (new : service.initialized = false) :
    service = fresh settings ⟨replies, []⟩ := by
  -- All but an untouched service have looked.
  cases orderly with
  | untouched same => exact same
  | _ _ done =>
    rw [done] at new
    cases new

/-- What a look for the server finds is what is known afterwards. -/
theorem Orderly.status_start (orderly : Orderly settings replies service) :
    (service.perform .start).2.initialized = true ∧
      (service.perform .start).2.status = remembered (service.perform .start).1 := by
  generalize service.perform .start = result, service.started_perform = started
  -- Every outcome of the look is what is known afterwards, but for the model.
  cases started with
  | known done => exact ⟨done, rfl⟩
  | disabled new off =>
    rw [orderly.eq_fresh new]
    exact ⟨rfl, rfl⟩
  | failed new on fault unusable =>
    rw [orderly.eq_fresh new]
    exact ⟨rfl, rfl⟩
  | told new on reason => exact ⟨rfl, rfl⟩

/-- A server that was looked for is not looked for again. -/
private theorem start_again (settings : AssistantSettings) (replies : List Reply)
    (early between : List Call) :
    let before := (fresh settings ⟨replies, []⟩).after early
    let now := (fresh settings ⟨replies, []⟩).after (early ++ .start :: between)
    now.perform .start = (.ok (.status (remembered (before.perform .start).1)), now) := by
  intro before now
  -- Up to the first look the service keeps its order, and from then on what it knows.
  have orderly : Orderly settings replies before := Orderly.after (.untouched rfl) early
  have split : now = (before.perform .start).2.after between := by
    rw [← after_cons, ← after_append]
  obtain ⟨initialized, known⟩ := orderly.status_start
  obtain ⟨done, same⟩ := status_after initialized between
  rw [← split] at done same
  generalize now.perform .start = result, now.started_perform = started
  cases started with
  | known _ => rw [same, known]
  | _ new =>
    rw [done] at new
    cases new

/-- A first look for a server that lists its models tells the model. -/
private theorem start_of_listsModels (new : service.initialized = false)
    (on : service.settings.enabled = true)
    (lists : service.wire.next.listsModels service.settings = true) :
    ∃ reason, (service.perform .start).1
      = .ok (.status ⟨true, reason, some service.settings.model⟩) := by
  -- Of the four outcomes three do not fit the server.
  generalize service.perform .start = result, service.started_perform = started
  cases started with
  | known done =>
    rw [new] at done
    cases done
  | disabled _ off =>
    rw [on] at off
    cases off
  | failed _ _ fault unusable =>
    rw [lists] at unusable
    cases unusable
  | told _ _ reason => exact ⟨reason, by rw [lists]⟩

/-- A question whose request fails leaves nothing behind, and goes to the server again. -/
private theorem asks_again (question : call.isQuestion = true) (asks : service.asks call = true)
    (unanswered : ∀ value, ¬ service.Obtains call value) :
    (service.perform call).2.answers = service.answers ∧
    (service.perform call).2.asks call = true := by
  -- The request was sent, and there is no answer that could be kept.
  obtain ⟨key, -, -, asked⟩ := asked_of_asks question asks
  have outcome (value : Json) : (service.perform call).1 ≠ .ok (.answer (some value)) :=
    fun told => unanswered value ⟨asks, told⟩
  generalize service.perform call = result at asked outcome ⊢
  cases asked with
  | answered request posts value => exact absurd rfl (outcome value)
  | failed request posts other _ =>
    refine ⟨rfl, ?_⟩
    -- Whether a question goes to the server does not depend on the wire.
    cases call <;> exact asks

/-- The server is asked for its models at most once, before all else, and is asked nothing
more unless it lists them; an answer that was obtained is given again without a request, while
the answer of a request that fails is not kept; and what a look for the server found is told
again, but for the model. -/
theorem sends_sparingly (settings : AssistantSettings) (replies : List Reply) :
    let after := (fresh settings ⟨replies, []⟩).after
    (∀ calls, (after calls).wire.sent = [] ∨
      ∃ posts, (after calls).wire.sent = Client.modelsRequest settings :: posts ∧
        (∀ post ∈ posts, post.body.isSome = true) ∧
        (posts ≠ [] → (replies.headD Wire.silence).listsModels settings = true)) ∧
    (∀ early call between value, (after early).Obtains call value →
      let now := after (early ++ call :: between)
      now.perform call = (.ok (.answer (some value)), now)) ∧
    (∀ early call, call.isQuestion = true → (after early).asks call = true →
      (∀ value, ¬ (after early).Obtains call value) →
      (after (early ++ [call])).answers = (after early).answers ∧
      (after (early ++ [call])).asks call = true) ∧
    ∀ early between,
      let now := after (early ++ .start :: between)
      now.perform .start = (.ok (.status (remembered ((after early).perform .start).1)), now) := by
  refine ⟨fun calls => ?_, fun early call between value => perform_again,
    fun early call question asks unanswered => ?_, start_again settings replies⟩
  · -- The invariant of a fresh service, after all calls, says what was sent.
    have orderly : Orderly settings replies ((fresh settings ⟨replies, []⟩).after calls) :=
      Orderly.after (.untouched rfl) calls
    cases orderly with
    | untouched same =>
      rw [same]
      exact .inl rfl
    | disabled isSet done unusable silent => exact .inl silent
    | started isSet done posts log posted usable quiet =>
      refine .inr ⟨posts, log, posted, fun some => ?_⟩
      cases available : ((fresh settings ⟨replies, []⟩).after calls).available with
      | true => exact usable available
      | false => exact absurd (quiet available) some
  · -- The last call is the one that fails.
    rw [after_append, after_cons, after_nil]
    exact asks_again question asks unanswered

/-- The model that the first look for the server tells is not told by the second. -/
theorem start_forgets_model :
    let service := fresh { model := some "m" } ⟨[.response 200 "\x7b\"models\": []\x7d"], []⟩
    ∃ status, (service.perform .start).1 = .ok (.status status) ∧ status.available = true ∧
      ((service.after [.start]).perform .start).1 ≠ .ok (.status status) := by
  intro service
  -- The server lists models, even if there are none.
  have lists : service.wire.next.listsModels service.settings = true := by
    decide +kernel
  obtain ⟨reason, told⟩ :=
    start_of_listsModels (show service.initialized = false from rfl) (by decide) lists
  have again : ((service.after [.start]).perform .start).1
      = .ok (.status (remembered (service.perform .start).1)) :=
    congrArg Prod.fst (start_again service.settings service.wire.replies [] [])
  -- The second look tells no model, the first one did.
  refine ⟨_, told, rfl, fun same => ?_⟩
  have models := again.symm.trans same
  rw [told] at models
  simp [remembered] at models

end Service

end SourceAtlas
