import DocStore.Command.Arguments

/-!
Contract: the help texts of the command line.

Owns: the general help, the help of each task, and the version line.
-/

namespace DocStore.Command

/-- The version line. -/
def versionText : String := "flatbase 0.1.0\n"

/-- The one-line purpose of a topic. -/
def purpose (topic : String) : String :=
  match topic with
  | "import" => "Append documents from a JSON file (array or single object)"
  | "index" => "Create or drop an index on a dotted field path"
  | "filter" => "Print documents matching a predicate tree read from a JSON file"
  | "aggregate" => "Run an aggregate request read from a JSON file"
  | "count" => "Print the number of documents in a collection"
  | "collections" => "List databases, or the collections of one database"
  | _ => "Print this message or the help of the given subcommand(s)"

/-- A text followed by blanks up to a width. -/
def padded (width : Nat) (text : String) : String :=
  text ++ String.ofList (List.replicate (width - text.length) ' ')

/-- Lines, each of them ended. -/
def ended (lines : List String) : String := String.join (lines.map (· ++ "\n"))

/-- The help on the command line as a whole. -/
def generalHelp : String :=
  ended
    (["Flatbase CLI - query and aggregate flat-file document collections", "",
      "Usage: flatbase [OPTIONS] <COMMAND>", "", "Commands:"] ++
    ((taskNames ++ [helpName]).map fun name => "  " ++ padded 13 name ++ purpose name) ++
    ["", "Options:",
      "      --data <DATA>            Data directory (<dir>/<database>/<collection>.json) " ++
        "[default: flatbase-data]",
      "      --log-level <LOG_LEVEL>  Log level (ERROR, WARN, INFO, DEBUG, TRACE); " ++
        "overrides FLATBASE_LOG",
      "      --no-index               Evaluate every predicate by full scan",
      "  -h, --help                   Print help",
      "  -V, --version                Print version"])

/-- What follows the name of a topic in its usage line. -/
def usage (topic : String) : String :=
  match topic with
  | "import" => " --db <DB> --collection <COLLECTION> <FILE>"
  | "index" => " [OPTIONS] --db <DB> --collection <COLLECTION> <FIELD>"
  | "filter" => " --db <DB> --collection <COLLECTION> <PREDICATE>"
  | "aggregate" => " <REQUEST>"
  | "count" => " --db <DB> --collection <COLLECTION>"
  | "collections" => " [OPTIONS]"
  | _ => " [COMMAND]..."

/-- The lines about the operands of a topic. -/
def operandLines (topic : String) : List String :=
  let headed (line : String) : List String := ["", "Arguments:", "  " ++ line]
  match topic with
  | "import" => headed "<FILE>  "
  | "index" => headed "<FIELD>  "
  | "filter" => headed "<PREDICATE>  "
  | "aggregate" => headed "<REQUEST>  "
  | "count" | "collections" => []
  | _ => headed "[COMMAND]...  Print help for the subcommand(s)"

/-- The lines about the options of a topic. -/
def optionLines (topic : String) : List String :=
  let targetLines := ["      --db <DB>                  ", "      --collection <COLLECTION>  "]
  let helpLine := "  -h, --help                     Print help"
  match topic with
  | "import" | "filter" | "count" => targetLines ++ [helpLine]
  | "index" =>
      targetLines ++
        ["      --drop                     Drop the index instead of creating it", helpLine]
  | "aggregate" => ["  -h, --help  Print help"]
  | "collections" => ["      --db <DB>  ", "  -h, --help     Print help"]
  | _ => []

/-- The help on one topic. -/
def topicHelp (topic : String) : String :=
  let options := optionLines topic
  ended
    ([purpose topic, "", "Usage: flatbase " ++ topic ++ usage topic] ++ operandLines topic ++
      if options.isEmpty then [] else ["", "Options:"] ++ options)

/-- The help on a topic, or in general. -/
def helpText (topic : Option String) : String :=
  match topic with
  | none => generalHelp
  | some topic => topicHelp topic

end DocStore.Command
