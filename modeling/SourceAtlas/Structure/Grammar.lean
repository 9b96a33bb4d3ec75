import SourceAtlas.Structure.Match
import SourceAtlas.Text.Cut
import SourceAtlas.Text.Quoted

/-! Grammars of the structural parser: loaded once from installed packages, with
queries compiled once. -/

namespace SourceAtlas

/-- What a function of an installed package gives. -/
inductive Offer where
  | usable
  | incompatible (reason : String)

/-- What is installed for structural parsing. -/
structure Toolkit where
  /-- The functions of each package. -/
  packages : Assoc (Assoc Offer)
  /-- Whether a text has syntax errors; none when parsing fails. -/
  parse : String → Option Bool
  /-- Why a query does not compile. -/
  refusal? : String → Option String
  results : String → List Captures

/-- Why a grammar cannot be loaded. -/
inductive GrammarFault where
  | unsupported (grammar : String)
  | notInstalled (package : String)
  /-- The package lacks the function. -/
  | noFunction
  | incompatible (reason : String)

namespace GrammarFault

/-- The wording of a fault. -/
def message : GrammarFault → String
  -- A package is named with underscores and installed under a name with hyphens.
  | unsupported grammar => "Unsupported language for tree-sitter: " ++ grammar
  | notInstalled package =>
    "Language package '" ++ package ++ "' not installed. Install it with: pip install " ++
      replaceChar '_' '-' package
  | noFunction => ""
  | incompatible reason => reason

end GrammarFault

/-- The package and the function of each grammar. -/
def grammarSources : Assoc (String × String) :=
  -- Most packages hold one grammar, under the one name.
  let plain :=
    ["javascript", "python", "go", "rust", "java", "ruby", "c", "cpp", "c_sharp", "swift",
    "kotlin", "scala", "lua", "elixir", "haskell", "bash", "css", "html", "sql"]
  plain.map (fun name => (name, ("tree_sitter_" ++ name, "language"))) ++
    [("typescript", ("tree_sitter_typescript", "language_typescript")),
      ("tsx", ("tree_sitter_typescript", "language_tsx")),
      ("php", ("tree_sitter_php", "language_php"))]

/-- The grammars and queries in use, and how much work was done for them. -/
structure Workbench where
  toolkit : Toolkit
  /-- The grammars that are loaded. -/
  loaded : List String := []
  /-- The grammars that could not be loaded, which is not tried again. -/
  missing : List String := []
  /-- The queries that compiled, by grammar. -/
  compiled : List (String × String) := []
  /-- The queries that did not compile, by grammar, and why. -/
  refused : List ((String × String) × String) := []
  languagesMade : Nat := 0
  parsesTried : Nat := 0
  queriesTried : Nat := 0

namespace Workbench

/-- Whether a grammar is known and not missing. -/
def supports (bench : Workbench) (grammar : String) : Bool :=
  -- A grammar counts as supported until loading it has failed.
  grammarSources.has grammar && !bench.missing.contains grammar

/-- Makes the language of a grammar. -/
def makeLanguage (bench : Workbench) (grammar : String) : Except GrammarFault Unit × Workbench :=
  -- Only a function that is there makes a language, and it counts as made even where it is
  -- unusable.
  match grammarSources.get? grammar with
  | none => (.error (.unsupported grammar), bench)
  | some (package, function) =>
    match bench.toolkit.packages.get? package with
    | none => (.error (.notInstalled package), bench)
    | some functions =>
      match functions.get? function with
      | none => (.error .noFunction, bench)
      | some offer =>
        (match offer with
          | .usable => .ok ()
          | .incompatible reason => .error (.incompatible reason),
          { bench with languagesMade := bench.languagesMade + 1 })

/-- Loads a grammar unless it is loaded or missing, and tells whether it is loaded. -/
def load (bench : Workbench) (grammar : String) : Bool × Workbench :=
  -- Both outcomes are remembered, so each grammar is loaded at most once.
  if bench.missing.contains grammar then (false, bench)
  else if bench.loaded.contains grammar then (true, bench)
  else
    match bench.makeLanguage grammar with
    | (.ok _, bench) => (true, { bench with loaded := grammar :: bench.loaded })
    | (.error _, bench) => (false, { bench with missing := grammar :: bench.missing })

/-- Parses a text and tells whether it has syntax errors; a failure concerns this text only. -/
def parse (bench : Workbench) (grammar text : String) : Option Bool × Workbench :=
  -- A text that cannot be parsed leaves the grammar loaded.
  match bench.load grammar with
  | (false, bench) => (none, bench)
  | (true, bench) => (bench.toolkit.parse text, { bench with parsesTried := bench.parsesTried + 1 })

/-- Compiles a query unless that has been tried. -/
def compile (bench : Workbench) (grammar query : String) : Except String Unit × Workbench :=
  -- Queries are told apart by the grammar that they are for.
  let key := (grammar, query)
  let refuse := fun (bench : Workbench) (reason : String) =>
    let text := "Invalid query for " ++ grammar ++ ": " ++ reason
    (.error text, { bench with refused := (key, text) :: bench.refused })
  -- Both outcomes are remembered here too.
  if bench.compiled.contains key then (.ok (), bench)
  else
    match bench.refused.lookup key with
    | some text => (.error text, bench)
    | none =>
      -- A grammar that was not loaded refuses every query, with its own name as the reason.
      if bench.loaded.contains grammar then
        let tried := { bench with queriesTried := bench.queriesTried + 1 }
        match bench.toolkit.refusal? query with
        | some reason => refuse tried reason
        | none => (.ok (), { tried with compiled := key :: tried.compiled })
      else refuse bench (quoted grammar)

/-- What a query finds. -/
def matchesOf (bench : Workbench) (grammar query span : String) :
    Except String (List StructuralMatch) × Workbench :=
  -- The span is the same for all matches of a query.
  match bench.compile grammar query with
  | (.error reason, bench) => (.error reason, bench)
  | (.ok _, bench) => (.ok ((bench.toolkit.results query).map (⟨·, span⟩)), bench)

end Workbench

end SourceAtlas
