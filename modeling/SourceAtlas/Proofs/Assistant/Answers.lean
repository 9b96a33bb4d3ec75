import SourceAtlas.Proofs.Assistant.Calls
import SourceAtlas.Proofs.Assoc
import SourceAtlas.Proofs.Text.Joining

/-! The answers that the assistant on a server keeps: where each of them comes from, and which
questions its keys do not tell apart. -/

namespace SourceAtlas

/-! ## Keys -/

/-- A task and some paths in one text. -/
def subjectText (task : String) (paths : List String) : String :=
  task ++ ":" ++ joinWith "|" paths

/-- Whether a task has no colon and no path has a bar. -/
def isUnmarkedSubject (task : String) (paths : List String) : Bool :=
  !task.toList.contains ':' && paths.all fun path => !path.toList.contains '|'

namespace Call

/-- Whether a call asks something of the model. -/
def isQuestion : Call → Bool
  | start => false
  | _ => true

/-- The key under which the answer to a call is kept, for a call that goes to the server. -/
def key? : Call → Option String
  | start => none
  | generate prompt maxTokens => some (Service.generateKey prompt maxTokens)
  | rank paths task => if paths.isEmpty then none else some (Service.rankKey paths task)
  | summarize passages task => if passages.isEmpty then none else Service.summaryKey? passages task

/-- The letter that starts the keys of calls of one kind. -/
def initial? : Call → Option Char
  | start => none
  | generate _ _ => some 'g'
  | rank _ _ => some 'r'
  | summarize _ _ => some 's'

/-- Two questions of one kind that show the same texts: for a ranking and for summaries, only the
text that joins the task and the paths counts. -/
def Resembles : Call → Call → Prop
  | generate prompt maxTokens, generate otherPrompt otherMaxTokens =>
    prompt = otherPrompt ∧ maxTokens = otherMaxTokens
  | rank paths task, rank others otherTask =>
    paths ≠ [] ∧ others ≠ [] ∧ subjectText task paths = subjectText otherTask others
  | summarize passages task, summarize others otherTask =>
    passages ≠ [] ∧ others ≠ [] ∧ ∃ paths otherPaths, passages.mapM Passage.path = some paths ∧
      others.mapM Passage.path = some otherPaths ∧
      subjectText task paths = subjectText otherTask otherPaths
  | _, _ => False

/-- Whether the marks of the keys occur in no task and no path of a call. -/
def isUnmarked : Call → Bool
  | rank paths task => isUnmarkedSubject task paths
  | summarize passages task => isUnmarkedSubject task (passages.filterMap Passage.path)
  | _ => true

/-- A call without the contents of its passages. -/
def withoutContents : Call → Call
  | summarize passages task => summarize (passages.map fun passage => ⟨passage.path, none⟩) task
  | call => call

end Call

/-- The text of an integer is its digits, behind a minus when it is negative. -/
theorem toList_toString_int (value : Int) : (toString value).toList
    = if 0 ≤ value then Nat.toDigits 10 value.toNat else '-' :: Nat.toDigits 10 (-value).toNat := by
  -- Both signs are written by the digits of the size.
  rw [Int.toString_eq_repr, Int.repr_eq_if]
  split <;> simp [Nat.toList_repr]

/-- The digits of a number are neither a colon nor a minus. -/
theorem isDigit_of_mem {n : Nat} {c : Char} (member : c ∈ Nat.toDigits 10 n) :
    c ≠ ':' ∧ c ≠ '-' := by
  have digit := Nat.isDigit_of_mem_toDigits (by decide) (by decide) member
  constructor <;> rintro rfl <;> exact absurd digit (by decide)

/-- The text of an integer has no colon. -/
private theorem colon_not_mem_toString (value : Int) : ':' ∉ (toString value).toList := by
  -- All characters are digits, but for a minus in front.
  rw [toList_toString_int]
  split
  · exact fun member => (isDigit_of_mem member).1 rfl
  · intro member
    rcases List.mem_cons.mp member with minus | member
    · exact absurd minus (by decide)
    · exact (isDigit_of_mem member).1 rfl

/-- Numbers are told apart by their digits. -/
private theorem toDigits_inj {n m : Nat} (same : Nat.toDigits 10 n = Nat.toDigits 10 m) :
    n = m := by
  -- The digits are read back as the number.
  rw [← Nat.ofDigitChars_ten_toDigits (n := n), same, Nat.ofDigitChars_ten_toDigits]

/-- Integers are told apart by their texts. -/
private theorem toString_int_inj {value other : Int} (same : toString value = toString other) :
    value = other := by
  have texts := congrArg String.toList same
  rw [toList_toString_int, toList_toString_int] at texts
  -- The minus is no digit, so both have one or none has.
  split at texts <;> split at texts
  · have := toDigits_inj texts
    omega
  · exact absurd rfl (isDigit_of_mem (texts ▸ List.mem_cons_self)).2
  · exact absurd rfl (isDigit_of_mem (texts.symm ▸ List.mem_cons_self)).2
  · have := toDigits_inj (List.cons.inj texts).2
    omega

/-- The keys of two completions are equal only for equal prompts and limits. -/
private theorem generateKey_inj {prompt other : String} {maxTokens otherMax : Int}
    (same : Service.generateKey prompt maxTokens = Service.generateKey other otherMax) :
    prompt = other ∧ maxTokens = otherMax := by
  -- The number has no colon, so the first colon behind it ends it.
  have texts := congrArg String.toList same
  simp only [Service.generateKey, String.toList_append, List.append_assoc,
    List.append_cancel_left_eq] at texts
  obtain ⟨numbers, prompts⟩ :=
    append_mark_inj (colon_not_mem_toString maxTokens) (colon_not_mem_toString otherMax) texts
  exact ⟨String.toList_injective prompts, toString_int_inj (String.toList_injective numbers)⟩

/-- The rest of the key of a ranking is its subject. -/
theorem rankKey_eq (paths : List String) (task : String) :
    Service.rankKey paths task = "rankFiles:" ++ subjectText task paths := by
  simp [Service.rankKey, subjectText, String.append_assoc]

/-- Summaries have a key iff every passage has a path, and it is made of the paths alone. -/
theorem summaryKey?_eq_some_iff {passages : List Passage} {task key : String} :
    Service.summaryKey? passages task = some key ↔
      ∃ paths, passages.mapM Passage.path = some paths ∧
      key = "summarizeCtx:" ++ subjectText task paths := by
  -- The key fails with the first passage that has no path.
  simp only [Service.summaryKey?, Option.bind_eq_bind, Option.bind_eq_some_iff, Option.pure_def,
    Option.some.injEq]
  simp [subjectText, String.append_assoc, eq_comm]

/-- The first letter of a key tells the kind of its question. -/
theorem Call.head_of_key? {call : Call} {key : String} (isKey : call.key? = some key) :
    key.toList.head? = call.initial? := by
  -- The keys of each kind start with a word of their own.
  cases call with
  | start => cases isKey
  | generate prompt maxTokens =>
    cases isKey
    simp [Service.generateKey, initial?]
  | rank paths task =>
    rw [key?] at isKey
    split at isKey
    · cases isKey
    · cases isKey
      simp [rankKey_eq, initial?]
  | summarize passages task =>
    rw [key?] at isKey
    split at isKey
    · cases isKey
    · obtain ⟨paths, -, rfl⟩ := summaryKey?_eq_some_iff.mp isKey
      simp [initial?]

/-- Questions resemble each other exactly when their answers are kept under one key. -/
theorem Call.resembles_iff {earlier call : Call} :
    earlier.Resembles call ↔ ∃ key, earlier.key? = some key ∧ call.key? = some key := by
  constructor
  · intro similar
    -- Only questions of one kind resemble each other, so three of all pairs are left.
    cases earlier <;> cases call <;> try exact similar.elim
    case generate.generate =>
      obtain ⟨rfl, rfl⟩ := similar
      exact ⟨_, rfl, rfl⟩
    case rank.rank paths task others otherTask =>
      obtain ⟨nonempty, otherNonempty, same⟩ := similar
      refine ⟨Service.rankKey paths task, ?_, ?_⟩
      · simp [key?, nonempty]
      · simp [key?, otherNonempty, rankKey_eq, same]
    case summarize.summarize passages task others otherTask =>
      obtain ⟨nonempty, otherNonempty, paths, otherPaths, found, otherFound, same⟩ := similar
      refine ⟨"summarizeCtx:" ++ subjectText task paths, ?_, ?_⟩
      · simpa [key?, nonempty] using summaryKey?_eq_some_iff.mpr ⟨paths, found, rfl⟩
      · simpa [key?, otherNonempty]
          using summaryKey?_eq_some_iff.mpr ⟨otherPaths, otherFound, by rw [same]⟩
  · rintro ⟨key, isKey, otherKey⟩
    -- Keys of different kinds start with different letters.
    have heads := (head_of_key? isKey).symm.trans (head_of_key? otherKey)
    cases earlier <;> cases call <;> simp [initial?] at heads
    case start.start => cases isKey
    -- The number and the prompt are read off the key.
    case generate.generate =>
      cases isKey
      exact (generateKey_inj (Option.some.inj otherKey)).imp Eq.symm Eq.symm
    case rank.rank =>
      simp only [key?, Option.ite_none_left_eq_some, List.isEmpty_iff, Option.some.injEq,
        rankKey_eq] at isKey otherKey
      obtain ⟨nonempty, rfl⟩ := isKey
      obtain ⟨otherNonempty, same⟩ := otherKey
      exact ⟨nonempty, otherNonempty, (String.append_right_inj _).mp same.symm⟩
    case summarize.summarize =>
      simp only [key?, Option.ite_none_left_eq_some, List.isEmpty_iff,
        summaryKey?_eq_some_iff] at isKey otherKey
      obtain ⟨nonempty, paths, found, rfl⟩ := isKey
      obtain ⟨otherNonempty, otherPaths, otherFound, same⟩ := otherKey
      exact ⟨nonempty, otherNonempty, paths, otherPaths, found, otherFound,
        (String.append_right_inj _).mp same⟩

/-- Unmarked subjects are told apart by their texts. -/
private theorem subjectText_inj {task otherTask : String} {paths others : List String}
    (nonempty : paths ≠ []) (otherNonempty : others ≠ [])
    (unmarked : isUnmarkedSubject task paths = true)
    (otherUnmarked : isUnmarkedSubject otherTask others = true)
    (same : subjectText task paths = subjectText otherTask others) :
    task = otherTask ∧ paths = others := by
  simp only [isUnmarkedSubject, Bool.and_eq_true, Bool.not_eq_true', List.contains_eq_mem,
    decide_eq_false_iff_not, List.all_eq_true] at unmarked otherUnmarked
  have texts := congrArg String.toList same
  simp only [subjectText, String.toList_append, List.append_assoc] at texts
  -- The first colon ends the task, and what follows is split at the bars.
  obtain ⟨tasks, joined⟩ := append_mark_inj unmarked.1 otherUnmarked.1 texts
  have paths := joinWith_inj (by decide) nonempty otherNonempty unmarked.2 otherUnmarked.2
    (String.toList_injective joined)
  exact ⟨String.toList_injective tasks, paths⟩

/-- Passages that all have paths are as many as their paths, in order. -/
private theorem map_path_of_mapM {passages : List Passage} {paths : List String}
    (found : passages.mapM Passage.path = some paths) :
    passages.map Passage.path = paths.map some := by
  induction passages generalizing paths with
  | nil =>
    cases found
    rfl
  | cons passage rest ih =>
    simp only [List.mapM_cons, Option.bind_eq_bind, Option.bind_eq_some_iff, Option.pure_def,
      Option.some.injEq] at found
    obtain ⟨path, isPath, others, areOthers, rfl⟩ := found
    rw [List.map_cons, List.map_cons, isPath, ih areOthers]

/-- Unmarked questions that resemble each other are the same but for the contents of passages. -/
theorem Call.withoutContents_eq_of_resembles {earlier call : Call}
    (similar : earlier.Resembles call) (unmarked : earlier.isUnmarked = true)
    (otherUnmarked : call.isUnmarked = true) :
    earlier.withoutContents = call.withoutContents := by
  -- Questions of different kinds do not resemble each other.
  cases earlier <;> cases call <;> try exact similar.elim
  case generate.generate =>
    obtain ⟨rfl, rfl⟩ := similar
    rfl
  case rank.rank =>
    obtain ⟨nonempty, otherNonempty, same⟩ := similar
    obtain ⟨rfl, rfl⟩ := subjectText_inj nonempty otherNonempty unmarked otherUnmarked same
    rfl
  case summarize.summarize passages task others otherTask =>
    obtain ⟨nonempty, otherNonempty, paths, otherPaths, found, otherFound, same⟩ := similar
    -- Both lists of passages have paths throughout, and these are what the keys are made of.
    have named := map_path_of_mapM found
    have otherNamed := map_path_of_mapM otherFound
    -- What the paths say of the passages: they are listed, and there are some when there are
    -- passages.
    have listed : ∀ {passages : List Passage} {paths : List String},
        passages.map Passage.path = paths.map some →
        passages.filterMap Passage.path = paths ∧ (passages ≠ [] → paths ≠ []) := by
      intro passages paths named
      have ids := congrArg (List.filterMap id) named
      simp only [List.filterMap_map, Function.comp_def, id_eq, List.filterMap_some] at ids
      refine ⟨ids, fun nonempty none => nonempty ?_⟩
      simpa [none] using named
    obtain ⟨areListed, filled⟩ := listed named
    obtain ⟨otherListed, otherFilled⟩ := listed otherNamed
    simp only [isUnmarked, areListed, otherListed] at unmarked otherUnmarked
    obtain ⟨rfl, rfl⟩ :=
      subjectText_inj (filled nonempty) (otherFilled otherNonempty) unmarked otherUnmarked same
    -- Passages without contents are their paths.
    have emptied : passages.map (fun passage => Passage.mk passage.path none)
        = others.map (fun passage => Passage.mk passage.path none) := by
      have both :=
        congrArg (List.map fun path => Passage.mk path none) (named.trans otherNamed.symm)
      simpa [Function.comp_def] using both
    simp only [withoutContents, emptied]

/-! ## What a call leaves -/

/-- Whether a reply to the question for the models of a server shows that the server can be used. -/
def Reply.listsModels (settings : AssistantSettings) (reply : Reply) : Bool :=
  reply.value?.any fun value => !Client.isUnlisted (Client.family settings) value

/-- A reply that does not derail the question for the models lists them when it has their names. -/
theorem Reply.listsModels_eq (settings : AssistantSettings) (reply : Reply) :
    reply.listsModels settings = (!reply.derails (Client.isUnlisted (Client.family settings))
      && (reply.value?.bind Client.names?).isSome) := by
  rw [listsModels, derails]
  cases isValue : reply.value? with
  | none => simp
  | some value =>
    -- A reply with a value is no broken one.
    have whole : reply.isBroken = false := by
      cases reply with
      | broken text => cases isValue
      | _ => rfl
    rw [whole, Option.any_some, Option.any_some, Option.bind_some, Bool.false_or, Client.isUnlisted]
    cases Client.names? value <;> simp

namespace Service

/-- The kept answer that a call is given instead of going to the server. -/
def kept? (service : Service) (call : Call) : Option Json :=
  if service.isAvailable then call.key?.bind service.answers.get? else none

/-- A call goes to the server and comes back with an answer. -/
def Obtains (service : Service) (call : Call) (value : Json) : Prop :=
  service.asks call = true ∧ (service.perform call).1 = .ok (.answer (some value))

/-- What a question that goes to the server leaves: one more request, and the answer under
its key if there is one. -/
inductive Asked (service : Service) (key : String) : Except ClientFault CallResult × Service → Prop
  | answered (request : Request) (posts : request.body.isSome = true) (value : Json) :
      Asked service key (.ok (.answer (some value)),
        { service with
          wire := (service.wire.send request).2
          answers := service.answers.put key value })
  | failed (request : Request) (posts : request.body.isSome = true)
      (outcome : Except ClientFault CallResult)
      (unanswered : ∀ value, outcome ≠ .ok (.answer (some value))) :
      Asked service key (outcome, { service with wire := (service.wire.send request).2 })

variable {service : Service} {call : Call} {key : String} {value : Json}

/-- A question that is put to the server keeps its answer if it comes to one. -/
private theorem asked_answer {expected : ClientFault → Bool} {question : Exchange Json}
    {found : Option Json} {derailed : Bool} {request : Request} (posts : request.body.isSome = true)
    (new : service.answers.get? key = none)
    (come : question.ComesTo expected service.wire found derailed (service.wire.send request).2) :
    Asked service key ((service.answer key expected question).map (Except.map .answer) id) := by
  -- Nothing is kept under the key, so the question goes to the server.
  unfold answer
  rw [new]
  cases come with
  | answer answered =>
    rw [exchange_of_through answered]
    exact .answered request posts _
  | @fault fault _ failed =>
    rw [exchange_of_through failed]
    dsimp only
    -- Whether the fault is expected or not, there is no answer to keep.
    cases expected fault with
    | true => exact .failed request posts _ (by simp [Except.map])
    | false => exact .failed request posts _ (by simp [Except.map])

/-- A key is open when the server can be used and nothing is kept under it. -/
theorem isOpen_iff :
    service.isOpen key = true ↔ service.isAvailable = true ∧ service.answers.get? key = none := by
  simp [isOpen]

/-- A question whose key is open goes to the server. -/
theorem asked_of_isOpen {expected : ClientFault → Bool} {question : Exchange Json}
    {found : Option Json} {derailed : Bool} {request : Request} (posts : request.body.isSome = true)
    (open_ : service.isOpen key = true)
    (come : question.ComesTo expected service.wire found derailed (service.wire.send request).2) :
    Asked service key ((if service.isAvailable then service.answer key expected question
      else (.ok none, service)).map (Except.map .answer) id) := by
  obtain ⟨available, new⟩ := isOpen_iff.mp open_
  rw [if_pos available]
  exact asked_answer posts new come

/-- A question whose key is not open leaves the service as it is. -/
theorem unchanged_of_not_isOpen {expected : ClientFault → Bool} {question : Exchange Json}
    (closed : service.isOpen key = false) :
    (if service.isAvailable then service.answer key expected question else (.ok none, service)).2
      = service := by
  -- Either the server cannot be used, or an answer is kept and given.
  cases available : service.isAvailable with
  | false => rfl
  | true =>
    rw [isOpen, available, Bool.true_and] at closed
    obtain ⟨value, isKept⟩ := Option.isSome_iff_exists.mp (by simpa using closed)
    rw [if_pos rfl, answer, isKept]

/-- A question that goes to the server has a key under which nothing is kept, and
leaves what is asked for. -/
theorem asked_of_asks (question : call.isQuestion = true) (asks : service.asks call = true) :
    ∃ key, call.key? = some key ∧ service.isOpen key = true ∧
    Asked service key (service.perform call) := by
  -- Each question goes to the server through its own exchange, under its own key.
  cases call with
  | start => cases question
  | generate prompt maxTokens =>
    have come := Client.comesTo_generate Client.expects_isUnusable service.settings
      (isWritable_usual prompt maxTokens) service.wire
    exact ⟨_, rfl, asks, asked_of_isOpen rfl asks come⟩
  | rank paths task =>
    have come := (Client.comesTo_list Client.comesTo_rankings service.settings
      (Client.rankingPrompt paths task) 800 service.wire).map Json.arr
    cases paths with
    | nil => cases asks
    | cons path paths => exact ⟨_, rfl, asks, asked_of_isOpen rfl asks come⟩
  | summarize passages task =>
    simp only [Service.asks, Bool.and_eq_true, Bool.not_eq_true', Option.any_eq_true] at asks
    obtain ⟨⟨nonempty, complete⟩, key, isKey, open_⟩ := asks
    obtain ⟨prompt, come⟩ := Client.comesTo_summarize service.settings complete task service.wire
    have asked := asked_of_isOpen rfl open_ (come.map Json.arr)
    refine ⟨key, ?_, open_, ?_⟩
    · rw [Call.key?, nonempty]
      exact isKey
    · rw [perform, summarize, nonempty, isKey]
      exact asked

/-- A question that does not go to the server leaves the service as it is. -/
theorem unchanged_of_not_asks (question : call.isQuestion = true)
    (idle : service.asks call = false) :
    (service.perform call).2 = service := by
  -- What keeps a question from the server depends on its kind.
  cases call with
  | start => cases question
  | generate prompt maxTokens => exact unchanged_of_not_isOpen idle
  | rank paths task =>
    cases paths with
    | nil => rfl
    | cons path paths => exact unchanged_of_not_isOpen idle
  | summarize passages task =>
    rw [perform, summarize]
    cases nonempty : passages.isEmpty with
    | true => rfl
    | false =>
      cases isKey : summaryKey? passages task with
      | none => cases service.isAvailable <;> rfl
      | some key =>
        cases open_ : service.isOpen key with
        | false => exact unchanged_of_not_isOpen open_
        | true =>
          -- The key is open, so a passage lacks something and the question fails
          -- before anything is sent.
          have incomplete : passages.all Passage.isComplete = false := by
            simpa [Service.asks, nonempty, isKey, open_] using idle
          obtain ⟨available, new⟩ := isOpen_iff.mp open_
          have come :=
            (Client.comesTo_summarize_incomplete service.settings incomplete task service.wire).map
              Json.arr
          obtain ⟨outcome, failed, unanswered⟩ := come.through_eq
          cases outcome with
          | ok value => cases unanswered
          | error fault =>
            simp only [available, answer, new, exchange_of_through failed, Bool.false_eq_true,
              if_false, if_true]
            rfl

/-- A call with a kept answer is given it, and leaves the service as it is. -/
theorem perform_of_kept? (isKept : service.kept? call = some value) :
    service.perform call = (.ok (.answer (some value)), service) := by
  simp only [kept?, Option.ite_none_right_eq_some, Option.bind_eq_some_iff] at isKept
  obtain ⟨available, key, isKey, isKept⟩ := isKept
  -- The answer stands under the key, and every kind of question looks there first.
  cases call with
  | start => cases isKey
  | generate prompt maxTokens =>
    cases isKey
    simp [perform, generate, available, answer, isKept, Except.map]
  | rank paths task =>
    simp only [Call.key?, Option.ite_none_left_eq_some, Option.some.injEq] at isKey
    obtain ⟨nonempty, rfl⟩ := isKey
    simp [perform, rank, nonempty, available, answer, isKept, Except.map]
  | summarize passages task =>
    simp only [Call.key?, Option.ite_none_left_eq_some] at isKey
    obtain ⟨nonempty, isKey⟩ := isKey
    simp [perform, summarize, nonempty, available, isKey, answer, isKept, Except.map]

/-- What looking for the server comes to, and what it leaves. -/
inductive Started (service : Service) : Except ClientFault CallResult × Service → Prop
  | known (done : service.initialized = true) : Started service
      (.ok (.status service.status), service)
  | disabled (new : service.initialized = false) (off : service.settings.enabled = false) :
      Started service (.ok (.status ⟨false, some disabledReason, none⟩),
        { service with initialized := true, reason := some disabledReason })
  | failed (new : service.initialized = false) (on : service.settings.enabled = true)
      (fault : ClientFault)
      (unusable : service.wire.next.listsModels service.settings = false) :
      Started service (.error fault,
        { service with
          initialized := true
          wire := (service.wire.send (Client.modelsRequest service.settings)).2 })
  | told (new : service.initialized = false) (on : service.settings.enabled = true)
      (reason : Option String) :
      Started service
        (.ok (.status ⟨service.wire.next.listsModels service.settings, reason,
          some service.settings.model⟩),
          { service with
            initialized := true
            wire := (service.wire.send (Client.modelsRequest service.settings)).2
            available := service.wire.next.listsModels service.settings
            reason })

/-- What looking for the server comes to is one of the four outcomes. -/
theorem started_perform (service : Service) : Started service (service.perform .start) := by
  -- The server is looked for only once, and only where an assistant is wanted.
  rw [perform, start]
  cases new : service.initialized with
  | true => exact .known new
  | false =>
    dsimp only
    cases on : service.settings.enabled with
    | false => exact .disabled new on
    | true =>
      -- The outcome of the exchange tells whether the reply lists the models.
      obtain ⟨told, come, derails, up⟩ := Client.comesTo_health service.settings service.wire
      obtain ⟨outcome, asked, tells⟩ := come.through_eq
      have exchanged : Service.exchange { service with initialized := true } _ = _ :=
        exchange_of_through asked
      have usable := service.wire.next.listsModels_eq service.settings
      rw [← derails, ← tells] at usable
      simp only [Bool.not_true, Bool.false_eq_true, if_false]
      rw [exchanged]
      cases outcome with
      | error fault =>
        refine .failed new on fault ?_
        rw [usable]
        rfl
      | ok health =>
        have isUp : service.wire.next.listsModels service.settings = health.isUp := by
          rw [usable, up health tells.symm]
          rfl
        -- What is known of the server is what its reply told.
        cases health with
        | up models hasModel =>
          have told := Started.told new on service.reason
          rw [isUp] at told
          exact told
        | down reason =>
          have told := Started.told new on (some (if reason.isEmpty then unknownReason else reason))
          rw [isUp] at told
          exact told

/-- A question changes at most the wire and the kept answers, and the wire only when
it goes to the server. -/
theorem perform_question (service : Service) {call : Call} (question : call.isQuestion = true) :
    ∃ wire answers, (service.perform call).2 = { service with wire, answers } ∧
      (service.asks call = false ∧ wire = service.wire ∨
        service.asks call = true ∧ ∃ request, request.body.isSome = true ∧
        wire = (service.wire.send request).2) := by
  -- A question either stays at home or sends exactly one request.
  cases asks : service.asks call with
  | false =>
    exact ⟨service.wire, service.answers, unchanged_of_not_asks question asks, .inl ⟨rfl, rfl⟩⟩
  | true =>
    obtain ⟨key, -, -, asked⟩ := asked_of_asks question asks
    generalize service.perform call = result at asked
    cases asked with
    | answered request posts value => exact ⟨_, _, rfl, .inr ⟨rfl, request, posts, rfl⟩⟩
    | failed request posts outcome _ =>
      exact ⟨_, service.answers, rfl, .inr ⟨rfl, request, posts, rfl⟩⟩

/-- A call keeps its answer under its key when it obtains one, and nothing else
changes in what is kept. -/
theorem get?_perform (service : Service) (call : Call) (key : String) (value : Json) :
    (service.perform call).2.answers.get? key = some value ↔ service.answers.get? key = some value ∨
      service.answers.get? key = none ∧ service.Obtains call value ∧ call.key? = some key := by
  -- Looking for the server keeps no answer, and a question keeps its own at most.
  cases question : call.isQuestion with
  | false =>
    cases call with
    | start =>
      have same : (service.perform .start).2.answers = service.answers := by
        generalize service.perform .start = result, service.started_perform = started
        cases started <;> rfl
      simp [same, Call.key?]
    | _ => cases question
  | true =>
    cases asks : service.asks call with
    | false => simp [unchanged_of_not_asks question asks, Obtains, asks]
    | true =>
      obtain ⟨own, isOwn, open_, asked⟩ := asked_of_asks question asks
      have new := (isOpen_iff.mp open_).2
      simp only [Obtains, asks, true_and, isOwn, Option.some.injEq]
      generalize service.perform call = result at asked ⊢
      cases asked with
      | answered request posts found =>
        -- Under its own key the answer is new, and all other keys have what they had.
        rw [Assoc.get?_put]
        by_cases same : key = own
        · subst same
          simp [new]
        · simp [same, Ne.symm same]
      | failed request posts outcome unanswered => simp [unanswered value]

/-! ## What a run keeps -/

/-- Without a call nothing changes. -/
@[simp] theorem after_nil (service : Service) : service.after [] = service := rfl

/-- Calls are performed one after the other. -/
@[simp] theorem after_cons (service : Service) (call : Call) (calls : List Call) :
    service.after (call :: calls) = (service.perform call).2.after calls := rfl

/-- Calls of two lists are performed one list after the other. -/
theorem after_append (service : Service) (early late : List Call) :
    service.after (early ++ late) = (service.after early).after late := by
  rw [after, after, after, List.foldl_append]

/-- What is kept stays so. -/
theorem get?_after_of_some (isKept : service.answers.get? key = some value) (calls : List Call) :
    (service.after calls).answers.get? key = some value := by
  -- The service changes with every call, so it stays quantified over.
  induction calls generalizing service with
  | nil => exact isKept
  | cons call calls ih => exact ih ((service.get?_perform call key value).mpr (.inl isKept))

/-- A call that obtains an answer has an open key. -/
theorem Obtains.isOpen (obtains : service.Obtains call value) :
    ∃ key, call.key? = some key ∧ service.isOpen key = true := by
  obtain ⟨asks, told⟩ := obtains
  cases question : call.isQuestion with
  | true =>
    obtain ⟨key, isKey, open_, _⟩ := asked_of_asks question asks
    exact ⟨key, isKey, open_⟩
  | false =>
    -- Looking for the server tells a status, never an answer.
    cases call with
    | start =>
      generalize service.perform .start = result, service.started_perform = started at told
      cases started <;> cases told
    | _ => cases question

/-- After any calls exactly those answers are kept that were kept before or were obtained
for the first time since. -/
theorem get?_after (service : Service) (calls : List Call) (key : String) (value : Json) :
    (service.after calls).answers.get? key = some value ↔ service.answers.get? key = some value ∨
      service.answers.get? key = none ∧ ∃ early call late, calls = early ++ call :: late ∧
        (service.after early).Obtains call value ∧ call.key? = some key := by
  -- An answer that is kept in the end was kept at first, or by the first call, or by a later one.
  induction calls generalizing service with
  | nil => simp
  | cons first rest ih =>
    rw [after_cons, ih, get?_perform]
    constructor
    · rintro ((isKept | ⟨new, obtains, isKey⟩) | ⟨new, early, call, late, rfl, obtains, isKey⟩)
      · exact .inl isKept
      · exact .inr ⟨new, [], first, rest, rfl, obtains, isKey⟩
      · refine .inr ⟨?_, first :: early, call, late, rfl, obtains, isKey⟩
        -- The first call would have left what was kept before.
        cases isKept : service.answers.get? key with
        | none => rfl
        | some old =>
          rw [(service.get?_perform first key old).mpr (.inl isKept)] at new
          cases new
    · rintro (isKept | ⟨new, early, call, late, split, obtains, isKey⟩)
      · exact .inl (.inl isKept)
      · cases early with
        | nil =>
          obtain ⟨rfl, rfl⟩ := List.cons.inj split
          exact .inl (.inr ⟨new, obtains, isKey⟩)
        | cons before early =>
          obtain ⟨rfl, rfl⟩ := List.cons.inj split
          -- The later call found nothing under its key, so the first has put nothing there.
          refine .inr ⟨?_, early, call, late, rfl, obtains, isKey⟩
          obtain ⟨own, isOwn, open_⟩ := obtains.isOpen
          obtain rfl : own = key := Option.some.inj (isOwn.symm.trans isKey)
          have none := (isOpen_iff.mp open_).2
          cases isKept : (service.perform first).2.answers.get? own with
          | none => rfl
          | some old =>
            rw [after_cons, get?_after_of_some isKept] at none
            cases none

/-- Once the server has been looked for, what is known of it stays the same. -/
theorem status_after (done : service.initialized = true) (calls : List Call) :
    (service.after calls).initialized = true ∧ (service.after calls).status = service.status := by
  -- Each step leaves what is known, and the induction carries that along.
  induction calls generalizing service with
  | nil => exact ⟨done, rfl⟩
  | cons call calls ih =>
    rw [after_cons]
    have step : (service.perform call).2.initialized = true ∧
        (service.perform call).2.status = service.status := by
      cases question : call.isQuestion with
      | true =>
        obtain ⟨wire, answers, left, -⟩ := service.perform_question question
        rw [left]
        exact ⟨done, rfl⟩
      | false =>
        cases call with
        | start =>
          generalize service.perform .start = result, service.started_perform = started
          cases started with
          | known _ => exact ⟨done, rfl⟩
          | _ new =>
            rw [done] at new
            cases new
        | _ => cases question
    rw [← step.2]
    exact ih step.1

/-- A server that was found stays so. -/
private theorem isAvailable_after (available : service.isAvailable = true) (calls : List Call) :
    (service.after calls).isAvailable = true := by
  -- Whether the server was found is part of what is known of it.
  obtain ⟨done, found⟩ := Bool.and_eq_true_iff.mp available
  obtain ⟨stillDone, same⟩ := status_after done calls
  have stillFound : (service.after calls).available = service.available :=
    congrArg ServiceStatus.available same
  rw [isAvailable, stillDone, stillFound, found, Bool.and_true]

/-- A service that was not asked anything yet. -/
def fresh (settings : AssistantSettings) (wire : Wire) : Service :=
  { settings, wire }

variable {settings : AssistantSettings} {wire : Wire} {calls early : List Call}

/-- A kept answer is given exactly to the questions that resemble the one for
which it was obtained. -/
theorem kept?_after_iff : ((fresh settings wire).after calls).kept? call = some value ↔
    ∃ early earlier late, calls = early ++ earlier :: late ∧
      ((fresh settings wire).after early).Obtains earlier value ∧ earlier.Resembles call := by
  simp only [kept?, Option.ite_none_right_eq_some, Option.bind_eq_some_iff, Call.resembles_iff]
  constructor
  · rintro ⟨-, key, isKey, isKept⟩
    -- Nothing is kept at first, so the answer was obtained by one of the calls.
    rcases (get?_after _ calls key value).mp isKept
      with isKept | ⟨-, early, earlier, late, split, obtains, own⟩
    · cases isKept
    · exact ⟨early, earlier, late, split, obtains, key, own, isKey⟩
  · rintro ⟨early, earlier, late, rfl, obtains, key, own, isKey⟩
    obtain ⟨_, _, open_⟩ := obtains.isOpen
    refine ⟨?_, key, isKey, (get?_after _ _ key value).mpr
      (.inr ⟨rfl, early, earlier, late, rfl, obtains, own⟩)⟩
    rw [after_append]
    exact isAvailable_after (isOpen_iff.mp open_).1 _

/-- Once a question has obtained an answer, none that resembles it obtains one. -/
private theorem not_obtains_again {earlier : Call} {late : List Call} {other : Json}
    (obtains : (service.after early).Obtains earlier value) (similar : earlier.Resembles call) :
    ¬ (service.after (early ++ earlier :: late)).Obtains call other := by
  intro again
  -- Both calls have the one key, under which the first answer is kept.
  obtain ⟨key, own, isKey⟩ := Call.resembles_iff.mp similar
  obtain ⟨_, isOwn, open_⟩ := obtains.isOpen
  obtain rfl := Option.some.inj (isOwn.symm.trans own)
  obtain ⟨_, isSame, stillOpen⟩ := again.isOpen
  obtain rfl := Option.some.inj (isSame.symm.trans isKey)
  -- The first answer stays under the key, so that the key is not open any more.
  have first := (get?_perform _ earlier _ value).mpr (.inr ⟨(isOpen_iff.mp open_).2, obtains, own⟩)
  have none := (isOpen_iff.mp stillOpen).2
  rw [after_append, after_cons, get?_after_of_some first] at none
  cases none

/-- Every kept answer that is given was obtained by an earlier call of the same
method with equal arguments. -/
def NeverMixes (service : Service) (calls : List Call) : Prop :=
  ∀ early call late value, calls = early ++ call :: late →
    (service.after early).kept? call = some value →
    ∃ before between, early = before ++ call :: between ∧ (service.after before).Obtains call value

/-- A call that resembles an earlier one which obtained an answer is the same call. -/
def TellsApart (service : Service) (calls : List Call) : Prop :=
  ∀ early earlier between call late value, calls = early ++ earlier :: (between ++ call :: late) →
    (service.after early).Obtains earlier value → earlier.Resembles call → earlier = call

/-- Kept answers are never mixed up exactly when no call resembles another one that obtained an
answer before it; and calls whose tasks have no colon and whose paths have no bar resemble each
other only when they are equal but for the contents of passages. -/
theorem neverMixes_iff (settings : AssistantSettings) (wire : Wire) (calls : List Call) :
    ((fresh settings wire).NeverMixes calls ↔ (fresh settings wire).TellsApart calls) ∧
      ∀ earlier call : Call, earlier.Resembles call → earlier.isUnmarked = true →
        call.isUnmarked = true →
        earlier.withoutContents = call.withoutContents := by
  refine ⟨⟨?_, ?_⟩, fun earlier call => Call.withoutContents_eq_of_resembles⟩
  · intro unmixed early earlier between call late value split obtains similar
    have isKept := kept?_after_iff.mpr ⟨early, earlier, between, rfl, obtains, similar⟩
    obtain ⟨before, rest, same, again⟩ := unmixed _ call late value (by simpa using split) isKept
    -- Only one of the two calls can have obtained the answer, so they stand at the same place.
    rcases List.append_eq_append_iff.mp same with ⟨more, longer, tails⟩ | ⟨more, shorter, tails⟩
    · cases more with
      | nil => exact (List.cons.inj tails).1
      | cons first more =>
        obtain ⟨rfl, -⟩ := List.cons.inj tails
        rw [longer] at again
        exact absurd again (not_obtains_again obtains similar)
    · cases more with
      | nil => exact (List.cons.inj tails).1.symm
      | cons first more =>
        obtain ⟨rfl, -⟩ := List.cons.inj tails
        obtain ⟨key, own, isKey⟩ := Call.resembles_iff.mp similar
        rw [shorter] at obtains
        exact absurd obtains (not_obtains_again again (Call.resembles_iff.mpr ⟨key, isKey, own⟩))
  · intro apart early call late value split isKept
    obtain ⟨before, earlier, between, rfl, obtains, similar⟩ := kept?_after_iff.mp isKept
    obtain rfl :=
      apart before earlier between call late value (by simpa using split) obtains similar
    exact ⟨before, between, rfl, obtains⟩

/-- Summaries of a file with one content are given for the same file with another content. -/
theorem summaries_mix_contents :
    let service := fresh { model := some "m" }
      ⟨[.response 200 "\x7b\"models\": []\x7d",
        .response 200
          "\x7b\"response\": \"[\x7b\\\"path\\\": \\\"a.js\\\", \\\"summary\\\": \\\"one\\\"\x7d]\"\x7d"], []⟩
    ¬ service.NeverMixes [.start, .summarize [⟨some "a.js", some "let one"⟩] "t",
      .summarize [⟨some "a.js", some "let two"⟩] "t"] := by
  -- The second question is given the answer to the first one.
  intro service unmixed
  have given : ((service.after [.start, .summarize [⟨some "a.js", some "let one"⟩] "t"]).kept?
      (.summarize [⟨some "a.js", some "let two"⟩] "t")).isSome = true := by
    decide +kernel
  obtain ⟨value, isKept⟩ := Option.isSome_iff_exists.mp given
  obtain ⟨before, between, split, -⟩ := unmixed [.start, _] _ [] value rfl isKept
  -- Neither of the calls before is the one that was given an answer.
  rcases before with - | ⟨first, - | ⟨second, before⟩⟩
  · cases split
  · simp at split
  · simp at split

end Service

end SourceAtlas
