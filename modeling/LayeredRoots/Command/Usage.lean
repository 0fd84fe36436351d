import LayeredRoots.Command.Word

/-! # How the program is used

    The program has two commands, and options at three levels: in front of the
    command and behind each of the two commands. -/

namespace LayeredRoots.Command

/-- Where on a command line a word stands. -/
inductive Level where
  | top
  | find
  | roots
  deriving DecidableEq, Repr

/-- What an option says. -/
inductive Choice where
  | config
  | verbose
  | json
  | help
  | version
  deriving DecidableEq, Repr

/-! ### What is wrong -/

/-- What is wrong with a command line. -/
inductive UsageFault where
  /-- A word that stands for nothing where it is. -/
  | unknownArgument
  /-- A word where a command is due. -/
  | unknownCommand
  /-- An option that is given again. -/
  | repeated
  /-- An option without the value it takes. -/
  | noValue
  /-- An option with a value it does not take. -/
  | needlessValue
  /-- A search for nothing. -/
  | noResources
  /-- A resource that is no text. -/
  | notText
  deriving DecidableEq, Repr

/-- The kind of a wrong use in words.  The word that is to blame is left out. -/
def UsageFault.message : UsageFault → String
  | unknownArgument => "unexpected argument found"
  | unknownCommand => "unrecognized subcommand"
  | repeated => "an argument cannot be used with one or more of the other specified arguments"
  | noValue => "one of the values isn't valid for an argument"
  | needlessValue => "unexpected value for an argument found"
  | noResources => "one or more required arguments were not provided"
  | notText => "invalid UTF-8 was detected in one or more arguments"

/-- What a page of help is about. -/
inductive HelpPage where
  | level (level : Level)
  /-- The command that gives help. -/
  | help
  deriving DecidableEq, Repr

/-- Why a command line asks for no work. -/
inductive Stop where
  /-- It asks for a page of help. -/
  | help {p : HelpPage}
  /-- It asks for the version. -/
  | version
  | fault (f : UsageFault)
  deriving DecidableEq, Repr

/-! ### Options -/

namespace Choice

/-- The letter of an option, if it has one. -/
def letter? : Choice → Option Char
  | verbose => some 'v'
  | help => some 'h'
  | version => some 'V'
  | config | json => none

/-- The name of an option. -/
def name : Choice → String
  | config => "config"
  | verbose => "verbose"
  | json => "json"
  | help => "help"
  | version => "version"

end Choice

namespace Level

/-- The options of a level, in the order in which they are listed. -/
def choices : Level → List Choice
  | top => [.config, .verbose, .help, .version]
  | find => [.config, .json, .verbose, .help]
  | roots => [.config, .verbose, .help]

/-- The long option with a name, which is never shortened. -/
def long? (level : Level) (name : Bytes) : Option Choice :=
  level.choices.find? fun choice => Text.encode choice.name = name

/-- The short option with a letter. -/
def short? (level : Level) (letter : UInt8) : Option Choice :=
  level.choices.find? fun choice => choice.letter?.any (·.toNat = letter.toNat)

end Level
end LayeredRoots.Command
