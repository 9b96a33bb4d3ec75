import SourceAtlas.Proofs.Assistant.Replies
import SourceAtlas.Proofs.Json.RoundTrip
import SourceAtlas.Proofs.Text.Blanks

/-! Values in the answers of a model. A model may write around the value that it was asked
for: the value is looked for from the first opening bracket on, up to the last bracket
that closes such a one. -/

namespace SourceAtlas

namespace Client

/-- The brackets around records and around lists, the opening one and the closing one. -/
def brackets : List (Char × Char) :=
  [('\x7b', '\x7d'), ('[', ']')]

/-- An opening bracket of a text is followed later by the one that closes it. -/
def IsBracketed (text : List Char) : Prop :=
  ∃ pair ∈ brackets, ∃ front middle back, text = front ++ pair.1 :: (middle ++ pair.2 :: back)

/-- A text starts and ends with two brackets that belong together, no bracket opens in front of it,
and its last bracket does not come again behind it. -/
structure IsEmbedded (front json back : String) (pair : Char × Char) : Prop where
  known : pair ∈ brackets
  starts : json.toList.head? = some pair.1
  ends : json.toList.getLast? = some pair.2
  before : ∀ other ∈ brackets, other.1 ∉ front.toList
  behind : pair.2 ∉ back.toList

variable {c close : Char} {rest text : List Char}

/-! ## The stretch that is found -/

/-- What closes a bracket is the other one of its pair. -/
theorem closing?_eq_some_iff : closing? c = some close ↔ (c, close) ∈ brackets := by
  -- There are two kinds of brackets, and nothing else is closed by anything.
  unfold closing?
  split <;> simp_all [brackets, eq_comm]

/-- A character that is closed nowhere behind it is passed over. -/
private theorem embedded?_cons_of_open (unclosed : ∀ close, (c, close) ∈ brackets → close ∉ rest) :
    embedded? (c :: rest) = embedded? rest := by
  -- Whatever would close the character does not stand behind it.
  have none : (closing? c).filter rest.contains = none := by
    rw [Option.filter_eq_none_iff]
    intro close isClosing
    simpa using unclosed close (closing?_eq_some_iff.mp isClosing)
  rw [embedded?, none]

/-- From a bracket that is closed behind it, the stretch goes up to the last one that closes it. -/
private theorem embedded?_cons_of_closed (known : (c, close) ∈ brackets) (closed : close ∈ rest) :
    embedded? (c :: rest) = some (c :: trimEndBy (· != close) rest) := by
  -- The closing bracket is known and stands behind it.
  have found : (closing? c).filter rest.contains = some close := by
    rw [closing?_eq_some_iff.mpr known, Option.filter_some, if_pos (by simpa using closed)]
  rw [embedded?, found]
  rfl

/-- What opens no bracket is passed over. -/
theorem embedded?_append {front : List Char} (free : ∀ pair ∈ brackets, pair.1 ∉ front)
    (text : List Char) :
    embedded? (front ++ text) = embedded? text := by
  -- Character by character: what opens no bracket is closed by none.
  induction front with
  | nil => rfl
  | cons c front ih =>
    have unclosed : ∀ close, (c, close) ∈ brackets → close ∉ front ++ text :=
      fun close known => absurd (List.mem_cons_self ..) (free (c, close) known)
    rw [List.cons_append, embedded?_cons_of_open unclosed]
    exact ih fun pair known member => free pair known (List.mem_cons_of_mem _ member)

/-- The stretch that is found in a text is the one that is embedded there. -/
private theorem embedded?_of_isEmbedded {front json back : String} {pair : Char × Char}
    (embedded : IsEmbedded front json back pair) :
    embedded? (front ++ json ++ back).toList = some json.toList := by
  obtain ⟨opener, closer⟩ := pair
  -- A bracket does not close itself, so the text has a first and a last character.
  have apart : opener ≠ closer := by
    have each : ∀ pair ∈ brackets, pair.1 ≠ pair.2 := by decide
    exact each _ embedded.known
  obtain ⟨middle, isJson⟩ : ∃ middle, json.toList = opener :: (middle ++ [closer]) := by
    obtain ⟨rest, isStart⟩ := List.head?_eq_some_iff.mp embedded.starts
    obtain ⟨init, isEnd⟩ := List.getLast?_eq_some_iff.mp embedded.ends
    cases init with
    | nil => exact absurd (List.cons.inj (isStart.symm.trans isEnd)).1 apart
    | cons c middle =>
      have same : opener = c := (List.cons.inj (isStart.symm.trans isEnd)).1
      exact ⟨middle, by rw [isEnd, same, List.cons_append]⟩
  have isText : (front ++ json ++ back).toList
      = front.toList ++ opener :: (middle ++ closer :: back.toList) := by
    simp [isJson]
  -- The last closing bracket is the one at the end, since there is none behind it.
  have nothing : trimEndBy (· != closer) back.toList = [] := by
    apply trimEndBy_of_all
    intro c member
    have other : c ≠ closer := fun same => embedded.behind (same ▸ member)
    exact bne_iff_ne.mpr other
  rw [isText, embedded?_append embedded.before, embedded?_cons_of_closed embedded.known (by simp),
    trimEndBy_append_cons (by simp), nothing, isJson]

/-- A bracket is closed in a text, or one is in what follows the first character. -/
theorem isBracketed_cons_iff :
    IsBracketed (c :: rest) ↔ (∃ close, (c, close) ∈ brackets ∧ close ∈ rest) ∨
    IsBracketed rest := by
  constructor
  · rintro ⟨pair, known, front, middle, back, isText⟩
    -- The bracket that opens is the first character or stands behind it.
    cases front with
    | nil =>
      obtain ⟨rfl, rfl⟩ := List.cons.inj isText
      exact .inl ⟨pair.2, known, by simp⟩
    | cons d front =>
      obtain ⟨rfl, rfl⟩ := List.cons.inj isText
      exact .inr ⟨pair, known, front, middle, back, rfl⟩
  · rintro (⟨close, known, closed⟩ | ⟨pair, known, front, middle, back, rfl⟩)
    · obtain ⟨middle, back, rfl⟩ := List.append_of_mem closed
      exact ⟨(c, close), known, [], middle, back, rfl⟩
    · exact ⟨pair, known, c :: front, middle, back, rfl⟩

/-- Nothing is found exactly where no bracket is closed. -/
theorem embedded?_eq_none_iff : embedded? text = none ↔ ¬ IsBracketed text := by
  -- The first character is a bracket that is closed, or it can be passed over.
  induction text with
  | nil => simp [embedded?, IsBracketed]
  | cons c rest ih =>
    rw [isBracketed_cons_iff, not_or]
    by_cases closed : ∃ close, (c, close) ∈ brackets ∧ close ∈ rest
    · obtain ⟨close, known, later⟩ := closed
      rw [embedded?_cons_of_closed known later]
      simp only [reduceCtorEq, false_iff]
      exact fun free => free.1 ⟨close, known, later⟩
    · rw [embedded?_cons_of_open fun close known later => closed ⟨close, known, later⟩, ih]
      exact ⟨fun free => ⟨closed, free⟩, fun free => free.2⟩

end Client

/-! ## The answer of the model -/

/-- The model answers with a text, in a reply that tells of success. -/
def Reply.Answers (reply : Reply) (text : String) : Prop :=
  reply.value?.bind Client.answer? = some (.str text)

/-- A successful reply has the value that its body writes. -/
theorem Reply.value?_of_parse {status : Int} {body : String} {value : Json}
    (success : Status.isSuccess status = true)
    (parsed : Json.parse (Client.withoutMark body) = .ok value) :
    (Reply.response status body).value? = some value := by
  -- The status tells of success, and the body can be read.
  rw [value?, text?, if_pos success, Option.bind_some, parsed]
  rfl

/-- The reply of a server whose model answers with a text. -/
def Reply.carrying (text : String) : Reply :=
  .response 200 ((Json.obj [("response", .str text)]).render .stored)

/-- What is written has no mark in front that would be taken away. -/
private theorem withoutMark_render (value : Json) :
    Client.withoutMark (value.render .stored) = value.render .stored := by
  -- The first character of a written value is known.
  obtain ⟨c, rest, shape, _, _, _, noMark⟩ := Json.print_head 0 value
  rw [Client.withoutMark, Json.render, String.toList_ofList, shape]
  split
  · rename_i marked
    exact absurd (List.cons.inj marked).1 noMark
  · rfl

/-- A model may answer with any text. -/
theorem Reply.answers_carrying (text : String) : (Reply.carrying text).Answers text := by
  -- The body is written without a mark in front, and is read back as it was.
  have parsed : Json.parse (Client.withoutMark
      ((Json.obj [("response", .str text)]).render .stored))
      = .ok (.obj [("response", .str text)]) := by
    rw [withoutMark_render]
    exact Json.parse_render rfl rfl
  rw [Answers, carrying, value?_of_parse (by decide) parsed]
  rfl

namespace Client

open Exchange

/-- A question for a value looks for it in the text that the model answers with. -/
private theorem through_generateJson (settings : AssistantSettings) (prompt : String)
    (maxTokens : Int) {wire : Wire} {text : String} (answered : wire.next.Answers text) :
    (generateJson settings prompt maxTokens).through wire = (valueIn (.str text)).through
      (wire.send (completionRequest settings (valueCompletion prompt maxTokens))).2 := by
  -- The model is asked as for any text, and the value is then looked for in its answer.
  have come :=
    comesTo_generate expects_isListFault settings (isWritable_valueCompletion prompt maxTokens) wire
  rw [show wire.next.value?.bind answer? = some (.str text) from answered] at come
  -- The reply has an answer, so the question cannot have failed before.
  generalize (wire.next.derails fun value => !value.isRecord) = derailed at come
  cases come with
  | answer generated => exact through_bind_of_ok generated

/-- Without a stretch in brackets there is no value. -/
private theorem through_valueIn_of_none {text : String} (nothing : embedded? text.toList = none)
    (wire : Wire) :
    (valueIn (.str text)).through wire = (.error (.noJson text), wire) := by
  simp only [valueIn, nothing]
  rfl

/-- A stretch that can be read is the value. -/
private theorem through_valueIn_of_ok {text json : String} {value : Json}
    (found : embedded? text.toList = some json.toList) (parsed : Json.parse json = .ok value)
    (wire : Wire) :
    (valueIn (.str text)).through wire = (.ok value, wire) := by
  simp only [valueIn, found, String.ofList_toList, parsed]
  rfl

/-- A stretch that cannot be read is a fault of one kind or the other. -/
private theorem through_valueIn_of_error {text json : String} {error : JsonError}
    (found : embedded? text.toList = some json.toList) (failed : Json.parse json = .error error)
    (wire : Wire) :
    (valueIn (.str text)).through wire =
      (.error (if error.fault.isSyntactic then .invalidJson error else .unreadable error),
        wire) := by
  simp only [valueIn, found, String.ofList_toList, failed]
  rfl

/-- A question for a value gives the value that is embedded in the answer of the model, whatever
stands around it, and tells that there is none exactly when no bracket of the answer is closed. -/
theorem generateJson_reads_embedded (settings : AssistantSettings) (prompt : String)
    (maxTokens : Int) {wire : Wire} {text : String} (answered : wire.next.Answers text) :
    let outcome := ((generateJson settings prompt maxTokens).through wire).1
    (∀ front json back pair value, text = front ++ json ++ back → IsEmbedded front json back pair →
      Json.parse json = .ok value → outcome = .ok value) ∧
    (outcome = .error (.noJson text) ↔ ¬ IsBracketed text.toList) ∧
    (ClientFault.noJson text).message = "No JSON found in response: " ++ takeChars 200 text := by
  intro outcome
  -- The outcome is decided by what is found in the text.
  have result : outcome = ((valueIn (.str text)).through
      (wire.send (completionRequest settings (valueCompletion prompt maxTokens))).2).1 :=
    congrArg Prod.fst (through_generateJson settings prompt maxTokens answered)
  refine ⟨?_, ?_, rfl⟩
  · intro front json back pair value isText embedded parsed
    have found : embedded? text.toList = some json.toList := by
      rw [isText]
      exact embedded?_of_isEmbedded embedded
    rw [result, through_valueIn_of_ok found parsed]
  · -- Nothing but the lack of brackets leads to this fault.
    rw [result, ← embedded?_eq_none_iff]
    cases found : embedded? text.toList with
    | none =>
      rw [through_valueIn_of_none found]
      simp
    | some stretch =>
      -- Whether the stretch can be read or not, the outcome is another one.
      have isStretch : embedded? text.toList = some (String.ofList stretch).toList := by
        rw [found, String.toList_ofList]
      cases read : Json.parse (String.ofList stretch) with
      | ok value =>
        rw [through_valueIn_of_ok isStretch read]
        simp
      | error error =>
        rw [through_valueIn_of_error isStretch read]
        cases error.fault.isSyntactic <;> simp

/-- A list is read with brackets of all kinds before it, in it and behind it; brackets that only
close before they open hold nothing. -/
theorem generateJson_reads_embedded_amid_brackets :
    let value : Json := .arr [.obj [("path", .str "a]\x7d[")]]
    let text := "Sure] \x7d: " ++ value.render .stored ++ " and so on\x7d"
    let settings : AssistantSettings := { model := some "m" }
    IsEmbedded "Sure] \x7d: " (value.render .stored) " and so on\x7d" ('[', ']') ∧
      ((generateJson settings "p" 256).through ⟨[.carrying text], []⟩).1 = .ok value ∧
      ((generateJson settings "p" 256).through ⟨[.carrying "] no ["], []⟩).1
        = .error (.noJson "] no [") := by
  intro value text settings
  -- The list is what stands between the brackets that belong together.
  have embedded : IsEmbedded "Sure] \x7d: " (value.render .stored) " and so on\x7d" ('[', ']') :=
    ⟨by decide, by decide +kernel, by decide +kernel, by decide +kernel, by decide +kernel⟩
  have parsed : Json.parse (value.render .stored) = .ok value :=
    Json.parse_render (by decide +kernel) (by decide +kernel)
  -- The brackets of the other text only close before they open.
  have free : ¬ IsBracketed "] no [".toList := embedded?_eq_none_iff.mp (by decide +kernel)
  refine ⟨embedded, ?_, ?_⟩
  · have answered : (Wire.next ⟨[.carrying text], []⟩).Answers text := Reply.answers_carrying text
    exact (generateJson_reads_embedded settings "p" 256 answered).1 _ _ _ _ _ rfl embedded parsed
  · have answered : (Wire.next ⟨[.carrying "] no ["], []⟩).Answers "] no [" :=
      Reply.answers_carrying "] no ["
    exact (generateJson_reads_embedded settings "p" 256 answered).2.1.mpr free

end Client

end SourceAtlas
