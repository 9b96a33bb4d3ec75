import SourceAtlas.Command.Arguments

/-! The commands, their options, and the help about them. -/

namespace SourceAtlas

/-- What the command line is asked to do. -/
inductive Command where
  | build (root : String) (force incremental : Bool)
  | search (topic root : String) (kinds : List String) (limit : Int) (assisted : Bool)
  | overview (root : String)
  | graph (root : String) (asJson : Bool)
  | clear (root : String)
  /-- Shows help, as lines. -/
  | help (lines : List String)

namespace Command

/-- The name of the program. -/
def program : String := "cli"

/-- A command as it is described: its name, the word for its argument, its
purpose and its options. -/
structure Form where
  name : String
  argument : Option String := none
  purpose : String
  options : List CommandOption

/-- The option that every command has. -/
def helpOption : CommandOption :=
  { name := "--help", help := "Show this message and exit." }

/-- The option for the folder of the source tree. -/
def rootOption : CommandOption :=
  { name := "--root", value := some "DIRECTORY" }

/-- The commands by name. -/
def forms : List Form :=
  [{ name := "build", argument := some "[ROOT]", purpose := "Build or refresh the index for ROOT."
     options := [{ name := "--force", help := "Ignore the cache and rescan every file" },
       { name := "--no-incremental", help := "Full scan even when a cache exists" }, helpOption] },
   { name := "clear", purpose := "Delete the cached index.", options := [rootOption, helpOption] },
   { name := "graph", purpose := "Show import edges between project files."
     options := [rootOption, { name := "--json", help := "Print the graph as JSON" }, helpOption] },
   { name := "overview", purpose := "Summarize the indexed codebase."
     options := [rootOption, helpOption] },
   { name := "search", argument := some "TOPIC", purpose := "Find symbols relevant to TOPIC."
     options := [rootOption,
       { name := "--kind", value := some "TEXT", help := "Restrict to symbol kinds (repeatable)" },
       { name := "--limit", value := some "INTEGER", help := "Maximum results  [default: 20]" },
       { name := "--llm", help := "Re-rank with the local LLM if configured" }, helpOption] }]

/-- The options in front of a command. -/
def globalOptions : List CommandOption :=
  [{ name := "--verbose", letter := some 'v', help := "Enable debug logging" }, helpOption]

/-- Words and their descriptions in two columns. -/
def twoColumns (rows : List (String × String)) : List String :=
  -- The second column starts two blanks behind the longest word.
  let width := (rows.map fun row => row.1.length).foldl max 0 + 2
  rows.map fun (word, description) =>
    "  " ++ word ++
      -- A word without a description has nothing behind it.
      if description.isEmpty then ""
      else String.ofList (List.replicate (width - word.length) ' ') ++ description

/-- An option as it is described. -/
def optionRow (option : CommandOption) : String × String :=
  let letter := match option.letter with
    | some c => String.ofList ['-', c, ',', ' ']
    | none => ""
  -- The word for the value stands behind the name.
  (letter ++ option.name ++ (option.value.map (" " ++ ·)).getD "", option.help)

/-- Help: how it is used, its purpose, its options. -/
def helpLines (usage purpose : String) (options : List CommandOption) : List String :=
  ["Usage: " ++ program ++ " " ++ usage, "", "  " ++ purpose, "", "Options:"] ++
    twoColumns (options.map optionRow)

/-- Help about the program. -/
def programHelp : List String :=
  helpLines "[OPTIONS] COMMAND [ARGS]..." "Index a source tree and query its symbols."
      globalOptions ++
    ["", "Commands:"] ++ twoColumns (forms.map fun form => (form.name, form.purpose))

/-- Help about a command. -/
def Form.help (form : Form) : List String :=
  helpLines (form.name ++ " [OPTIONS]" ++ (form.argument.map (" " ++ ·)).getD "")
    form.purpose form.options

/-- The folder that is meant when none is given. -/
def usualRoot : String := "."

/-- A path that must lead to a folder. -/
def folder (isFolder : String → Bool) (name path : String) : Except UsageFault String :=
  -- The fault names the option or argument that was to lead to a folder.
  if isFolder path then .ok path else .error (.noFolder name path)

/-- Refuses arguments that nothing is done with. -/
def noMore (arguments : List String) : Except UsageFault Unit :=
  if arguments.isEmpty then .ok () else .error (.extraArguments arguments)

/-- The command of a form with its arguments. -/
def ofForm (isFolder : String → Bool) (form : Form) (arguments : Arguments) :
    Except UsageFault Command := do
  -- The folder is asked for first, so a wrong one hides what else is wrong.
  let root ← folder isFolder "--root" (arguments.valueOr "--root" usualRoot)
  match form.name with
  | "build" =>
    -- Here it is an argument and no option.
    let root ← folder isFolder "[ROOT]" (arguments.rest.headD usualRoot)
    noMore arguments.rest.tail
    return .build root (arguments.has "--force") (!arguments.has "--no-incremental")
  | "search" =>
    -- The number is only looked at where there is a topic.
    let limit := arguments.valueOr "--limit" "20"
    match arguments.rest, Arguments.integer? limit.toList with
    | [], _ => throw (.missingArgument "TOPIC")
    | _, none => throw (.notInteger "--limit" limit)
    | topic :: more, some limit =>
      noMore more
      return .search topic root (arguments.valuesOf "--kind") limit (arguments.has "--llm")
  | "overview" =>
    noMore arguments.rest
    return .overview root
  | "graph" =>
    noMore arguments.rest
    return .graph root (arguments.has "--json")
  | _ =>
    noMore arguments.rest
    return .clear root

/-- The command that the arguments of the program ask for. -/
def parse (isFolder : String → Bool) (arguments : List String) : Except UsageFault Command := do
  -- In front of the command options do not mix with other arguments.
  let first ← Arguments.read globalOptions false arguments
  if first.has "--help" then return .help programHelp
  match first.rest with
  | [] => throw .missingCommand
  | name :: rest =>
    match forms.find? (·.name == name) with
    | none => throw (.noSuchCommand name)
    | some form =>
      -- Behind it they do.
      let arguments ← Arguments.read form.options true rest
      -- Help goes before any other fault of the arguments.
      if arguments.has "--help" then return .help form.help
      ofForm isFolder form arguments

end Command

end SourceAtlas
