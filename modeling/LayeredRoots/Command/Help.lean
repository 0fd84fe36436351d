import LayeredRoots.Command.CommandLine

/-! # Pages of help

    A page says what it is about, how that is used, and what can stand there: an
    argument, commands and options.  Commands and options are listed in two
    columns.  The variable that can stand for an option is shown with the value
    that it has. -/

namespace LayeredRoots.Command

/-- The name of the program and its version. -/
def versionText : String := "resroot 0.3.0\n"

/-- Rows of two columns, of which the first is as wide as it has to be. -/
def columns (rows : List (String × String)) : List String :=
  let width := (rows.map fun row => row.1.length).foldl max 0
  rows.map fun (left, right) =>
    "  " ++ left ++ String.ofList (List.replicate (width - left.length) ' ') ++ "  " ++ right

/-- A block of a page, which is left out if nothing is in it. -/
def block (title : String) (rows : List (String × String)) : List String :=
  if rows.isEmpty then [] else "" :: (title ++ ":") :: columns rows

/-! ### Options -/

namespace Choice

/-- How an option is given. -/
def form (choice : Choice) : String :=
  let letter := match choice.letter? with
    | some c => s!"-{c}, "
    | none => "    "
  let value := match choice with
    | config => " <CONFIG>"
    | verbose | json | help | version => ""
  s!"{letter}--{choice.name}{value}"

/-- What an option is for, where `configured` is the configuration that a
    variable names. -/
def about (configured : Option Bytes) : Choice → String
  | config =>
    let value := Text.lossy (configured.getD [])
    s!"JSON resolver configuration file [env: {CommandLine.configVariable}={value}]"
  | verbose => "Enable verbose/debug output"
  | json => "Print one JSON resolution result per line"
  | help => "Print help"
  | version => "Print version"

end Choice

/-! ### Pages -/

namespace Level

/-- What a level is for. -/
def about : Level → String
  | top => "Resolve logical resource paths against layered resource roots"
  | find => "Resolve logical resource paths to absolute paths"
  | roots => "Show every candidate resource root in search order"

/-- What follows the name of the program. -/
def usage : Level → String
  | top => "[OPTIONS] [COMMAND]"
  | find => "find [OPTIONS] <PATHS>..."
  | roots => "roots [OPTIONS]"

end Level

namespace HelpPage

def about : HelpPage → String
  | level l => l.about
  | help => "Print this message or the help of the given subcommand(s)"

def usage : HelpPage → String
  | level l => l.usage
  | help => "help [COMMAND]..."

/-- The plain words that a page explains. -/
def arguments : HelpPage → List (String × String)
  | level .find => [("<PATHS>...", "Logical resource paths (e.g. \"project/data/model.xml\")")]
  | help => [("[COMMAND]...", "Print help for the subcommand(s)")]
  | level .top | level .roots => []

/-- The commands that a page lists. -/
def commands : HelpPage → List (String × String)
  | level .top =>
    [("find", Level.find.about), ("roots", Level.roots.about), ("help", HelpPage.help.about)]
  | level .find | level .roots | help => []

/-- The options that a page lists. -/
def options : HelpPage → List Choice
  | level l => l.choices
  | help => []

/-- The text of a page. -/
def text (page : HelpPage) (configured : Option Bytes) : String :=
  let rows := page.options.map fun choice => (choice.form, choice.about configured)
  String.join <| List.map (· ++ "\n") <|
    [page.about, "", "Usage: resroot " ++ page.usage] ++ block "Arguments" page.arguments ++
      block "Commands" page.commands ++ block "Options" rows

/-! ### Examples -/

example : (level .find).text none =
    "Resolve logical resource paths to absolute paths\n\n" ++
    "Usage: resroot find [OPTIONS] <PATHS>...\n\n" ++
    "Arguments:\n" ++
    "  <PATHS>...  Logical resource paths (e.g. \"project/data/model.xml\")\n\n" ++
    "Options:\n" ++
    "      --config <CONFIG>  JSON resolver configuration file [env: RESROOT_CONFIG=]\n" ++
    "      --json             Print one JSON resolution result per line\n" ++
    "  -v, --verbose          Enable verbose/debug output\n" ++
    "  -h, --help             Print help\n" := by decide +kernel

end HelpPage
end LayeredRoots.Command
