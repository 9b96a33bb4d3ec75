import SourceAtlas.Catalog.Relevance

/-! What becomes of a question to an assistant: whether it is reached, and what
an answer is good for. -/

namespace SourceAtlas

namespace Advisor

variable {σ α β : Type}

/-- The assistant can be made, has time to get ready, gets ready and is then
available, in some state. -/
structure Reaches (advisor : Advisor σ) (assistant : Assistant σ) (state : σ) : Prop where
  made : advisor.handle.get.1 = some assistant
  timely : advisor.hasTime = true
  ready : assistant.prepare advisor.state = (.ready, state)
  available : assistant.isAvailable state = true

/-- A question reaches the assistant, and it answers. -/
def Answers (advisor : Advisor σ) (question : Assistant σ → σ → Option α × σ) (answer : α) : Prop :=
  ∃ assistant state, advisor.Reaches assistant state ∧ (question assistant state).1 = some answer

/-- A result is made from a usable answer, or is another one when there is no usable answer. -/
def Gives (advisor : Advisor σ) (question : Assistant σ → σ → Option α × σ) (usable : α → Bool)
    (fromAnswer : α → β) (otherwise result : β) : Prop :=
  (∃ answer, advisor.Answers question answer ∧ usable answer = true ∧ result = fromAnswer answer) ∨
    ((∀ answer, advisor.Answers question answer → usable answer = false) ∧ result = otherwise)

variable {advisor : Advisor σ} {question : Assistant σ → σ → Option α × σ}

/-- Asking finds the answer of the assistant and nothing else. -/
theorem ask_eq_some_iff {answer : α} :
    (advisor.ask question).1 = some answer ↔ advisor.Answers question answer := by
  constructor
  · -- Every way to fail before the question leaves nothing found.
    intro asked
    cases made : advisor.handle.get.1 with
    | none => simp [ask, made] at asked
    | some assistant =>
      cases timely : advisor.hasTime with
      | false =>
        have late : hasTime { advisor with handle := advisor.handle.get.2 } = false := timely
        simp [ask, made, late] at asked
      | true =>
        have inTime : hasTime { advisor with handle := advisor.handle.get.2 } = true := timely
        cases prepared : assistant.prepare advisor.state with
        | mk readiness state =>
          cases readiness with
          | failed => simp [ask, made, inTime, prepared] at asked
          | endless => simp [ask, made, inTime, prepared] at asked
          | ready =>
            cases available : assistant.isAvailable state with
            | false => simp [ask, made, inTime, prepared, available] at asked
            | true =>
              refine ⟨assistant, state, ⟨made, timely, prepared, available⟩, ?_⟩
              simpa [ask, made, inTime, prepared, available] using asked
  · rintro ⟨assistant, state, reaches, found⟩
    have inTime : hasTime { advisor with handle := advisor.handle.get.2 } = true := reaches.timely
    simp [ask, reaches.made, inTime, reaches.ready, reaches.available, found]

/-- An assistant counts as available iff it is reached. -/
theorem isAvailable_iff :
    advisor.isAvailable.1 = true ↔ ∃ assistant state, advisor.Reaches assistant state := by
  -- Asking whether it is available is a question that every assistant answers.
  have asked := @ask_eq_some_iff σ Unit advisor (fun _ state => (some (), state)) ()
  rw [show advisor.isAvailable.1 = (advisor.ask fun _ state => (some (), state)).1.isSome from rfl,
    Option.isSome_iff_exists]
  constructor
  · rintro ⟨_, found⟩
    obtain ⟨assistant, state, reaches, _⟩ := asked.mp found
    exact ⟨assistant, state, reaches⟩
  · rintro ⟨assistant, state, reaches⟩
    exact ⟨(), asked.mpr ⟨assistant, state, reaches, rfl⟩⟩

end Advisor

namespace Verdict

variable {β : Type}

/-- Whether an item is a record, and has a relevance that can be read if it is about a symbol. -/
def readable (about? : String → Option Symbol) (item : Json) : Bool :=
  (path? item).any fun path => (about? path).all fun _ => (relevance? .zero item).isSome

/-- The symbol that an item is about, with the item. -/
def hit? (about? : String → Option Symbol) (item : Json) : Option (Json × Symbol) :=
  ((path? item).bind about?).map fun symbol => (item, symbol)

/-- The symbols that the items of an answer are about, each with its item, in their order. -/
def hits (about? : String → Option Symbol) : Json → List (Json × Symbol)
  | .arr items => items.filterMap (hit? about?)
  | _ => []

/-- Whether an answer is a list of readable items of which one is about a symbol. -/
def usable (about? : String → Option Symbol) (answer : Json) : Bool :=
  match answer with
  | .arr items => items.all (readable about?) && !(hits about? answer).isEmpty
  | _ => false

/-- What an answer says about each of the symbols that its items are about. -/
def reading (about? : String → Option Symbol) (render : Json → Symbol → Binary64 → β)
    (answer : Json) : List β :=
  (hits about? answer).map fun hit => render hit.1 hit.2 ((relevance? .zero hit.1).getD .zero)

/-- What an item says about the symbol that it is about, if it can be read. -/
def row? (about? : String → Option Symbol) (render : Json → Symbol → Binary64 → β) (item : Json) :
    Option (List β) := do
  let path ← path? item
  match about? path with
  | none => return []
  | some symbol => return [render item symbol (← relevance? .zero item)]

/-- What an answer says about symbols, if all of it can be read. -/
def collect? (about? : String → Option Symbol) (render : Json → Symbol → Binary64 → β)
    (answer : Json) : Option (List β) := do
  let items ← items? answer
  let found ← items.mapM (row? about? render)
  return found.flatten

/-- Rows that are made of good items alone are made of a list of good items alone. -/
private theorem mapM_of_good {α : Type} {row : α → Option β} {good : α → Bool} {value : α → β}
    (one : ∀ item, row item = if good item then some (value item) else none) (items : List α) :
    items.mapM row = if items.all good then some (items.map value) else none := by
  -- One item that is not good spoils the list.
  induction items with
  | nil => rfl
  | cons item items ih =>
    rw [List.mapM_cons, one, ih]
    by_cases first : good item = true <;> by_cases others : items.all good = true <;>
      simp [first, others]

variable (about? : String → Option Symbol) (render : Json → Symbol → Binary64 → β)

/-- An item that can be read says something about the symbol that it is about, if there is one. -/
theorem row?_eq (item : Json) :
    row? about? render item = if readable about? item
      then some ((hit? about? item).toList.map fun hit =>
        render hit.1 hit.2 ((relevance? .zero hit.1).getD .zero))
      else none := by
  -- The item is followed from its path to its symbol and its relevance.
  cases isPath : path? item with
  | none => simp [row?, readable, isPath]
  | some path =>
    cases isAbout : about? path with
    | none => simp [row?, readable, hit?, isPath, isAbout]
    | some symbol =>
      cases score : relevance? .zero item <;> simp [row?, readable, hit?, isPath, isAbout, score]

/-- What the items say, one after the other, is what they say about their hits. -/
private theorem flatten_rows (items : List Json) :
    (items.map fun item => (hit? about? item).toList.map fun hit =>
      render hit.1 hit.2 ((relevance? .zero hit.1).getD .zero)).flatten
        = reading about? render (.arr items) := by
  -- Item by item: what is about no symbol adds nothing.
  induction items with
  | nil => rfl
  | cons item items ih =>
    rw [List.map_cons, List.flatten_cons, ih]
    cases found : hit? about? item <;> simp [reading, hits, found]

/-- What can be collected from an answer is what it says, if it is usable, and nothing otherwise. -/
private theorem collect?_getD (answer : Json) :
    (collect? about? render answer).getD [] = if usable about? answer
      then reading about? render answer else [] := by
  -- Only a list has items.
  cases answer with
  | arr items =>
    simp only [collect?, items?, usable, mapM_of_good (row?_eq about? render) items,
      Option.bind_eq_bind, Option.bind_some]
    by_cases all : items.all (readable about?) = true
    · by_cases none : hits about? (.arr items) = []
      · simp [all, flatten_rows, reading, none]
      · simp [all, flatten_rows, none]
    · simp [all]
  | _ =>
    -- Whatever is no list has no items or cannot be read.
    simp only [collect?, items?, usable]
    split <;> rfl

variable {about? render} {answer : Json}

/-- A usable answer says something. -/
theorem reading_ne_nil (render : Json → Symbol → Binary64 → β)
    (good : usable about? answer = true) :
    reading about? render answer ≠ [] := by
  -- An answer is usable only if it is a list with a hit.
  cases answer with
  | arr items =>
    simp only [usable, Bool.and_eq_true, Bool.not_eq_true', List.isEmpty_eq_false_iff] at good
    simpa [reading] using good.2
  | _ => simp [usable] at good

/-- What an answer says is about symbols that a path leads to. -/
theorem mem_reading {render : Json → Symbol → Binary64 → β} {part : β}
    (member : part ∈ reading about? render answer) :
    ∃ path item symbol score, about? path = some symbol ∧ part = render item symbol score := by
  -- Every part comes from a hit, and every hit from the path of an item.
  simp only [reading, List.mem_map] at member
  obtain ⟨hit, listed, rfl⟩ := member
  cases answer with
  | arr items =>
    simp only [hits, List.mem_filterMap, hit?, Option.map_eq_some_iff,
      Option.bind_eq_some_iff] at listed
    obtain ⟨item, _, symbol, ⟨path, _, isAbout⟩, rfl⟩ := listed
    exact ⟨path, item, symbol, _, isAbout, rfl⟩
  | _ => simp [hits] at listed

/-- No answer is usable where there is nothing that it could be about. -/
theorem usable_of_nowhere (nowhere : ∀ path, about? path = none) (answer : Json) :
    usable about? answer = false := by
  -- A usable answer would say something, and that would be about a symbol.
  rw [← Bool.not_eq_true]
  intro good
  obtain ⟨symbol, listed⟩ :=
    List.exists_mem_of_ne_nil _ (reading_ne_nil (fun _ symbol _ => symbol) good)
  obtain ⟨path, _, _, _, isAbout, _⟩ := mem_reading listed
  simp [nowhere] at isAbout

/-- What is collected from an answer that may be missing: what it says if it
is usable, else nothing. -/
theorem collected_cases (about? : String → Option Symbol) (render : Json → Symbol → Binary64 → β)
    (found : Option Json) :
    (∃ answer, found = some answer ∧ usable about? answer = true ∧
      (found.bind (collect? about? render)).getD [] = reading about? render answer) ∨
    ((∀ answer, found = some answer → usable about? answer = false) ∧
      (found.bind (collect? about? render)).getD [] = []) := by
  -- A missing answer says nothing, and any other is usable or not.
  cases found with
  | none => exact .inr ⟨by simp, rfl⟩
  | some answer =>
    have collected := collect?_getD about? render answer
    cases good : usable about? answer with
    | true => exact .inl ⟨answer, rfl, good, by simpa [good] using collected⟩
    | false =>
      refine .inr ⟨fun other same => ?_, by simpa [good] using collected⟩
      rw [← Option.some.inj same, good]

end Verdict

/-- What an item of a ranking says about a symbol. -/
def rankedBy (item : Json) (symbol : Symbol) (score : Binary64) : Symbol :=
  symbol.withRelevance score (item.fieldOrNull "reason")

/-- What an item of a summary says about a symbol, with the relevance that it goes by. -/
def summedUpBy (item : Json) (symbol : Symbol) (score : Binary64) : Binary64 × Symbol :=
  (score, (symbol.withExtra "summary" (item.fieldOrNull "summary")).withExtra "relevance"
    (.float score))

/-- The first symbol that a path mentions with its file. -/
def firstMentioned (candidates : List Symbol) (path : String) : Option Symbol :=
  candidates.find? (·.isMentioned path)

/-- The first symbol whose file and line a path mentions. -/
def firstLocated (symbols : List Symbol) (path : String) : Option Symbol :=
  symbols.find? fun symbol =>
    hasPart symbol.file path && hasPart (String.ofList (Json.intChars symbol.startLine)) path

/-- Symbols in the order of the relevance that they go by, the highest first. -/
def mostRelevantFirst (found : List (Binary64 × Symbol)) : List Symbol :=
  (sortDescending Prod.fst found).map Prod.snd

/-- Searching collects what an answer says about the symbols that it mentions. -/
theorem mentioned?_eq (candidates : List Symbol) :
    mentioned? candidates = Verdict.collect? (firstMentioned candidates) rankedBy :=
  rfl

/-- Summing up collects what an answer says about the symbols that it locates, the most relevant
first. -/
theorem summarized?_eq (symbols : List Symbol) (answer : Json) :
    summarized? symbols answer
      = (Verdict.collect? (firstLocated symbols) summedUpBy answer).map mostRelevantFirst := by
  -- Both read the same rows, and one of them orders what is read.
  have asRows : summarized? symbols answer = (Verdict.items? answer).bind fun items =>
      (items.mapM (Verdict.row? (firstLocated symbols) summedUpBy)).bind fun rows =>
        some (mostRelevantFirst rows.flatten) := rfl
  rw [asRows, Verdict.collect?]
  cases Verdict.items? answer with
  | none => rfl
  | some items =>
    cases rows : items.mapM (Verdict.row? (firstLocated symbols) summedUpBy) <;> simp [rows]

end SourceAtlas
