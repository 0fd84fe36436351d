import LayeredRoots.Command.Usage

/-! # Command lines

    A command line is read from left to right and the first offence wins, with
    two delays:

    - the value of `--config` and the resources of a find command are looked at
      when the next option comes, or at the end of their level;
    - the words in front of a command are completed after those behind it.

    An option may be given once at each level.  The configuration behind the
    command counts before the one in front of it, and both before the one that
    a variable names. -/

namespace LayeredRoots.Command

/-- The work that a command asks for. -/
inductive Task where
  | find (resources : List String) (json : Bool)
  | roots
  deriving DecidableEq, Repr

/-- What a command line asks for. -/
structure CommandLine where
  config  : Option Path
  verbose : Bool
  task    : Option Task
  deriving DecidableEq, Repr

/-! ### The words of one level -/

/-- What was given and not looked at yet. -/
inductive Pending where
  | nothing
  /-- A configuration, and its value once it was given. -/
  | config (value : Option Bytes)
  | resources (texts : List Bytes)
  deriving DecidableEq, Repr

/-- What the words of one level have said so far. -/
structure Given where
  config    : Option Path
  verbose   : Bool
  json      : Bool
  resources : List String
  pending   : Pending
  deriving DecidableEq, Repr

namespace Given

def nothing : Given := ⟨none, false, false, [], .nothing⟩

/-- Whether the next plain word is the value of an option. -/
def awaitsValue (g : Given) : Bool := g.pending = .config none

/-- Takes a configuration. -/
def setConfig (g : Given) (value : Bytes) : Except Stop Given :=
  if g.config.isSome then .error (.fault .repeated)
  else if value.isEmpty then .error (.fault .noValue)
  else .ok { g with config := some ⟨value⟩ }

/-- Looks at what was put off. -/
def settle (g : Given) : Except Stop Given :=
  let settled := { g with pending := .nothing }
  match g.pending with
  | .nothing => .ok settled
  | .config none => .error (.fault .noValue)
  | .config (some value) => settled.setConfig value
  | .resources texts =>
    match texts.mapM Text.decode? with
    | none => .error (.fault .notText)
    | some resources => .ok { settled with resources := g.resources ++ resources }

/-- Takes an option without a value. -/
def choose (g : Given) (level : Level) (choice : Choice) : Except Stop Given := do
  let g ← g.settle
  match choice with
  | .config => .ok { g with pending := .config none }
  | .verbose => if g.verbose then .error (.fault .repeated) else .ok { g with verbose := true }
  | .json => if g.json then .error (.fault .repeated) else .ok { g with json := true }
  | .help => .error (@Stop.help (.level level))
  | .version => .error .version

/-- Takes a long option. -/
def long (g : Given) (level : Level) (name : Bytes) (value : Option Bytes) :
    Except Stop Given :=
  match level.long? name, value with
  | none, _ => .error (.fault .unknownArgument)
  | some choice, none => g.choose level choice
  | some .config, some value => do (← g.settle).setConfig value
  | some _, some _ => .error (.fault .needlessValue)

/-- Takes a row of short options. -/
def short (g : Given) (level : Level) : Bytes → Except Stop Given
  | [] => .ok g
  | letter :: rest =>
    match level.short? letter with
    | none => .error (.fault .unknownArgument)
    | some choice => do (← g.choose level choice).short level rest

/-- Takes a resource. -/
def addResource (g : Given) (text : Bytes) : Except Stop Given := do
  match g.pending with
  | .resources texts => .ok { g with pending := .resources (texts ++ [text]) }
  | _ => .ok { ← g.settle with pending := .resources [text] }

/-- Completes a level, where `fallback` is the configuration that a variable
    names. -/
def complete (g : Given) (level : Level) (fallback : Option Bytes) : Except Stop Given := do
  let g ← g.settle
  if g.config.isNone ∧ fallback = some [] then .error (.fault .noValue)
  else if level = .find ∧ g.resources.isEmpty then .error (.fault .noResources)
  else .ok g

end Given

/-! ### Commands -/

/-- The level behind a command. -/
def commandLevel? (word : Bytes) : Option Level :=
  if word = Text.encode "find" then some .find
  else if word = Text.encode "roots" then some .roots
  else none

/-- Whether a word asks for help in place of a command. -/
def isHelpCommand (word : Bytes) : Bool := word = Text.encode "help"

/-- The page of help about a command. -/
def commandPage? (word : Bytes) : Option HelpPage :=
  if isHelpCommand word then some .help else (commandLevel? word).map .level

/-- Whether a word is the name of a command. -/
def isCommand (word : Bytes) : Bool := (commandPage? word).isSome

/-- What comes of a help command, which is about one command at most. -/
def helpAbout : List Bytes → Stop
  | [] => @Stop.help (.level .top)
  | [word] =>
    match commandPage? word with
    | some page => @Stop.help page
    | none => .fault .unknownCommand
  | _ => .fault .unknownCommand

/-- Takes a plain word; `divided` says whether it stands behind the divider. -/
def Given.plain (g : Given) (level : Level) (divided : Bool) (text : Bytes) :
    Except Stop Given :=
  match level with
  | .top =>
    -- a command behind the divider is no command any more
    .error (.fault (if divided && isCommand text then .unknownArgument else .unknownCommand))
  | .find => g.addResource text
  | .roots => .error (.fault .unknownArgument)

/-- Takes the words of a level, up to a command in front of which they stand.
    The command is answered with the words behind it. -/
def takeWords (level : Level) (divided : Bool) (g : Given) :
    List Bytes → Except Stop (Given × Option (Level × List Bytes))
  | [] => .ok (g, none)
  | word :: rest =>
    if divided then do
      takeWords level true (← g.plain level true word) rest
    else
      -- options come first: no option takes a value that looks like another
      match Word.ofBytes word with
      | .divider => takeWords level true g rest
      | .long name value => do takeWords level false (← g.long level name value) rest
      | .short letters => do takeWords level false (← g.short level letters) rest
      | .plain text =>
        -- a value may be the name of a command
        if g.awaitsValue then takeWords level false { g with pending := .config (some text) } rest
        else if level = .top ∧ isHelpCommand text then .error (helpAbout rest)
        else
          match level, commandLevel? text with
          | .top, some command => .ok (g, some (command, rest))
          | level, _ => do takeWords level false (← g.plain level false text) rest

/-- The task of a completed level. -/
def Given.task? (g : Given) : Level → Option Task
  | .top => none
  | .find => some (.find g.resources g.json)
  | .roots => some .roots

namespace CommandLine

/-- The variable that names a configuration. -/
def configVariable : String := "RESROOT_CONFIG"

/-- What a row of words asks for, where `fallback` is the configuration that a
    variable names. -/
def ofWords (fallback : Option Bytes) (words : List Bytes) : Except Stop CommandLine := do
  let (top, command) ← takeWords .top false .nothing words
  match command with
  | none =>
    let top ← top.complete .top fallback
    return ⟨top.config <|> fallback.map Path.mk, top.verbose, none⟩
  | some (level, words) =>
    let (below, _) ← takeWords level false .nothing words
    let below ← below.complete level fallback
    -- what is wrong in front of the command shows last
    let top ← top.complete .top fallback
    return ⟨below.config <|> top.config <|> fallback.map Path.mk,
      below.verbose || top.verbose, below.task? level⟩

end CommandLine
end LayeredRoots.Command
