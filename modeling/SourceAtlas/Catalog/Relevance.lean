import SourceAtlas.Assistant.Advisor
import SourceAtlas.Catalog.Summary
import SourceAtlas.Catalog.Topic
import SourceAtlas.Json.Display
import SourceAtlas.Number.Numeral
import SourceAtlas.Number.Ranking

/-! What matters to a task: rankings, contexts and descriptions, by an assistant or by keywords. -/

namespace SourceAtlas

namespace Verdict

/-- The items of an answer; whatever counts as absent has none. -/
def items? (answer : Json) : Option (List Json) :=
  match answer with
  | .arr items => some items
  -- Anything else that is not absent is no list.
  | other => if other.truthy then none else some []

/-- The path that an item is about; only records have one. -/
def path? : Json → Option String
  -- The path of a record may be missing or be no text, and is then shown as a text all the same.
  | .obj fields => some ((Assoc.get? fields "path").getD (.str "")).display
  | _ => none

/-- The relevance of an item, or a default where it has none; an integer beyond
all doubles is refused. -/
def relevance? (default : Binary64) (item : Json) : Option Binary64 :=
  match item.fieldOrNull "relevance" with
  -- Integers may be too large, doubles are taken as they are.
  | .int value => Binary64.ofInt? value
  | .float value => some value
  | .bool value => Binary64.ofInt? (if value then 1 else 0)
  -- A text that is no number is as good as none.
  | .str text => some ((numberInText? text.toList).getD default)
  | _ => some default

end Verdict

namespace Symbol

/-- Whether a path mentions a symbol and its file. -/
def isMentioned (symbol : Symbol) (path : String) : Bool :=
  -- A line that was sent has both in it, but so may other texts.
  hasPart symbol.name path && hasPart symbol.file path

/-- The symbol with a relevance and a reason for it. -/
def withRelevance (symbol : Symbol) (score : Binary64) (reason : Json) : Symbol :=
  -- The two fields go to the end, or replace what was there under their names.
  (symbol.withExtra "relevance_score" (.float score)).withExtra "relevance_reason" reason

/-- A symbol with its file and line, for a search. -/
def searchLine (symbol : Symbol) : String :=
  symbol.kind ++ ":" ++ symbol.name ++ " in " ++ symbol.location

/-- A symbol with its file and line, for a ranking. -/
def rankingLine (symbol : Symbol) : String :=
  symbol.kind ++ ":" ++ symbol.name ++ " (" ++ symbol.location ++ ")"

end Symbol

/-! ## Ranking symbols -/

namespace Ranking

/-- The item about a symbol, if every item up to it is a record. -/
def itemFor? (symbol : Symbol) : List Json → Option (Option Json)
  | [] => some none
  | item :: items => do
    -- What is no record stops the search, and with it the whole ranking.
    let path ← Verdict.path? item
    if symbol.isMentioned path then return some item else itemFor? symbol items

/-- The relevance where no item says anything. -/
def unmentioned : Binary64 := Binary64.ofDecimal false 3 (-1)

/-- A symbol with the relevance that the items give it. -/
def judge? (items : List Json) (symbol : Symbol) : Option (Binary64 × Symbol) := do
  -- A record that is empty says nothing either.
  let item := ((← itemFor? symbol items).filter Json.truthy).getD .null
  let score ← Verdict.relevance? unmentioned item
  let reason := item.fieldOrNull "reason"
  -- Without a reason there is a default one.
  return (score, symbol.withRelevance score (if reason.truthy then reason else .str "No match"))

/-- Symbols with the relevance that an answer gives them, the highest first. -/
def byAnswer? (symbols : List Symbol) (answer : Json) : Option (List Symbol) := do
  -- No answer at all leaves the ranking to the keywords.
  if !answer.truthy then none
  let items ← Verdict.items? answer
  -- One relevance beyond all doubles spoils the whole answer.
  let judged ← symbols.mapM (judge? items)
  return (sortDescending Prod.fst judged).map Prod.snd

/-- What each keyword adds. -/
def keywordWeight : Binary64 := Binary64.ofDecimal false 2 (-1)

/-- What being exported adds. -/
def exportWeight : Binary64 := Binary64.ofDecimal false 1 (-1)

/-- The greatest relevance. -/
def highest : Binary64 := Binary64.ofDecimal false 1 0

/-- The least length of a keyword. -/
def keywordLength : Nat := 3

/-- The relevance of a symbol by keywords: a base, more for each of the longer words found
and for being exported. -/
def keywordScore (words : List (List Char)) (symbol : Symbol) : Binary64 :=
  -- Short words are not counted.
  let hits := symbol.topicScore (words.filter fun word => word.length ≥ keywordLength)
  -- The weights are added one by one, as rounding depends on the order.
  let score := (List.replicate hits keywordWeight).foldl Binary64.add .zero
  let score := if symbol.exported then score.add exportWeight else score
  let total := unmentioned.add score
  -- The sum may be above the greatest relevance.
  if total.lt highest then total else highest

/-- Symbols with their relevance by keywords, the highest first. -/
def byKeywords (symbols : List Symbol) (task : String) : List Symbol :=
  -- All symbols are kept, also those without any of the words.
  let words := topicWords task
  let judged := symbols.map fun symbol =>
    let score := keywordScore words symbol
    (score, symbol.withRelevance score (.str "Keyword matching"))
  (sortDescending Prod.fst judged).map Prod.snd

end Ranking

/-- Symbols with their relevance to a task, the highest first. -/
def rankSymbols {σ : Type} (advisor : Advisor σ) (symbols : List Symbol) (task : String) :
    List Symbol × Advisor σ :=
  -- Nothing to rank needs no assistant.
  if symbols.isEmpty then ([], advisor)
  else
    let (answer, advisor) := advisor.ask fun assistant =>
      assistant.rank (symbols.map Symbol.rankingLine) task
    -- An answer that is of no use leaves the ranking to the keywords.
    let ranked := (answer.bind (Ranking.byAnswer? symbols)).filter fun found => !found.isEmpty
    (ranked.getD (Ranking.byKeywords symbols task), advisor)

/-! ## Searching by meaning -/

/-- The greatest number of symbols that an assistant is asked about. -/
def candidateLimit : Nat := 50

/-- The candidates that the items of an answer mention, in the order of the items. -/
def mentioned? (candidates : List Symbol) (answer : Json) : Option (List Symbol) := do
  -- Unlike in a ranking, symbols that no item mentions are left out.
  let items ← Verdict.items? answer
  let found ← items.mapM fun item => do
    let path ← Verdict.path? item
    -- The first candidate that is mentioned is meant.
    match candidates.find? (·.isMentioned path) with
    | none => return []
    | some symbol =>
      return [symbol.withRelevance (← Verdict.relevance? .zero item) (item.fieldOrNull "reason")]
  return found.flatten

namespace Catalog

variable {σ : Type}

/-- The symbols of a topic, ordered by an assistant if one can be asked. -/
def semanticSearch (catalog : Catalog) (advisor : Advisor σ) (topic : String) (bound : Int)
    (kinds : List String) : List Symbol × Advisor σ :=
  -- The keywords choose the candidates, and the assistant only orders them.
  let candidates := (catalog.candidates topic kinds).take candidateLimit
  if candidates.isEmpty then ([], advisor)
  else
    let (answer, advisor) := advisor.ask fun assistant =>
      assistant.rank (candidates.map Symbol.searchLine) topic
    -- An order that is empty is not taken.
    let found :=
      ((answer.bind (mentioned? candidates)).map (takeSigned bound)).filter fun found =>
        !found.isEmpty
    (found.getD (takeSigned bound candidates), advisor)

end Catalog

/-! ## Contexts of tasks -/

/-- The symbols and files that matter to a task. -/
structure TaskContext where
  task : String
  symbols : List Symbol := []
  files : List String := []
  /-- Whether an assistant summarised the symbols. -/
  enhanced : Bool := false

/-- The context as a record. -/
def TaskContext.toJson (context : TaskContext) : Json :=
  .obj [("task", .str context.task),
    ("symbols", .arr (context.symbols.map fun symbol => .obj symbol.fields)),
    ("files", .strings context.files), ("summary", .null), ("llm_enhanced", .bool context.enhanced)]

/-- The symbols that the summaries in an answer are about, the most relevant first. -/
def summarized? (symbols : List Symbol) (answer : Json) : Option (List Symbol) := do
  -- As in a search, symbols that no item is about are left out.
  let items ← Verdict.items? answer
  let found ← items.mapM fun item => do
    let path ← Verdict.path? item
    -- A summary is recognised by the file and the line, wherever in the path they stand.
    let about := symbols.find? fun symbol =>
      hasPart symbol.file path && hasPart (String.ofList (Json.intChars symbol.startLine)) path
    match about with
    | none => return []
    | some symbol =>
      let score ← Verdict.relevance? .zero item
      -- The summary and the relevance become fields of the symbol.
      return [(score, (symbol.withExtra "summary" (item.fieldOrNull "summary")).withExtra
        "relevance" (.float score))]
  return (sortDescending Prod.fst found.flatten).map Prod.snd

/-- The relevance of a symbol without one. -/
def middling : Binary64 := Binary64.ofDecimal false 5 (-1)

/-- The symbol with the relevance that it was found with as its own. -/
def Symbol.withOwnRelevance (symbol : Symbol) : Symbol :=
  -- A relevance of zero counts as none.
  let score := (symbol.extras.get? "relevance_score").getD .null
  symbol.withExtra "relevance" (if score.truthy then score else .float middling)

/-- A symbol as a passage to be summarised. -/
def Symbol.passage (symbol : Symbol) : Passage :=
  -- Only kind and name are sent, not the code.
  ⟨some symbol.location, some (symbol.kind ++ " " ++ symbol.name)⟩

/-- The context of a task: the symbols that matter to it, summarised by an
assistant if one can be asked. -/
def Catalog.taskContext {σ : Type} (catalog : Catalog) (advisor : Advisor σ) (task : String)
    (bound : Int) : TaskContext × Advisor σ :=
  -- Twice as many are looked for as are wanted, and the first half of them is summarised.
  let (symbols, advisor) := catalog.semanticSearch advisor task (bound * 2) []
  if symbols.isEmpty then ({ task }, advisor)
  else
    let (answer, advisor) := advisor.ask fun assistant =>
      assistant.summarize ((takeSigned bound symbols).map Symbol.passage) task
    -- The summaries may be about any of them.
    let enriched := (answer.bind (summarized? symbols)).getD []
    let first := takeSigned bound enriched
    -- Without summaries the symbols are those of the search.
    let chosen :=
      if first.isEmpty then (takeSigned bound symbols).map Symbol.withOwnRelevance else first
    ({ task
       symbols := chosen
       files := (chosen.map Symbol.file).eraseDups
       enhanced := !enriched.isEmpty }, advisor)

/-! ## Descriptions -/

/-- What a symbol is and where it is called. -/
structure Explanation where
  symbol : Symbol
  /-- A text, unless the assistant answers otherwise. -/
  description : Json
  calls : List CallSite
  /-- Whether an assistant described the symbol. -/
  enhanced : Bool

/-- The explanation as a record. -/
def Explanation.toJson (explanation : Explanation) : Json :=
  -- The purpose is never known.
  .obj [("symbol", .obj explanation.symbol.fields), ("description", explanation.description),
    ("purpose", .null), ("dependencies", .arr (explanation.calls.map CallSite.toJson)),
    ("llm_enhanced", .bool explanation.enhanced)]

/-- The words for the kinds of symbols. -/
def kindWords : Assoc String :=
  [("function", "A function"), ("class", "A class"), ("method", "A method"),
    ("component", "A React component"), ("hook", "A React hook"), ("variable", "A variable"),
    ("constant", "A constant"), ("type", "A type definition"), ("interface", "An interface")]

namespace Symbol

/-- A symbol described by its fields. -/
def plainDescription (symbol : Symbol) : String :=
  -- A kind without words of its own gets its name.
  (kindWords.get? symbol.kind).getD ("A " ++ symbol.kind) ++ " named \"" ++ symbol.name ++ "\"" ++
    (if symbol.exported then " (exported)" else "") ++ " in " ++ symbol.file

/-- The greatest length of code in a question. -/
def codeLimit : Nat := 1500

/-- The question for a description. -/
def describingPrompt (symbol : Symbol) (code : String) : String :=
  -- Only the beginning of long code is sent.
  "Explain this " ++ symbol.kind ++ " briefly:\nName: " ++ symbol.name ++ "\nFile: " ++
    symbol.file ++ "\n\nCode:\n" ++ takeChars codeLimit code ++
    "\n\nProvide: 1) What it does, 2) Its purpose in the codebase"

end Symbol

/-- The length of a description. -/
def descriptionTokens : Int := 200

/-- The explanation of a symbol; an assistant is asked only with its code. -/
def Catalog.explain {σ : Type} (catalog : Catalog) (advisor : Advisor σ) (id : String)
    (code : String) : Option Explanation × Advisor σ :=
  match catalog.find? id with
  | none => (none, advisor)
  | some symbol =>
    -- The assistant is made ready even where there is no code to ask about.
    let (answer, advisor) := advisor.ask fun assistant state =>
      if code.isEmpty then (none, state)
      else assistant.generate (symbol.describingPrompt code) descriptionTokens state
    -- An empty answer is none.
    let found := answer.filter Json.truthy
    (some
      { symbol
        description := found.getD (.str symbol.plainDescription)
        calls := catalog.callsOf id
        enhanced := found.isSome },
      advisor)

end SourceAtlas
