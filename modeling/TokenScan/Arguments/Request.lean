import TokenScan.Listing

/-! What can be asked for on the command line: the commands, the slots that arguments fill, and
the requests that a command line amounts to. -/
namespace TokenScan.Arguments

inductive Command where
  | tokens | session
  deriving DecidableEq, Repr

namespace Command

def name : Command → String
  | .tokens => "tokens"
  | .session => "repl"

def ofName? (word : String) : Option Command :=
  [Command.tokens, .session].find? fun command => command.name == word

end Command

/-- What an argument can set. The file is the one that has no option of its own. -/
inductive Slot where
  | verbose | config | source | format | locations | file | help | version
  deriving DecidableEq, Repr

namespace Slot

def long? : Slot → Option String
  | .verbose => some "verbose"
  | .config => some "config"
  | .source => some "source"
  | .format => some "format"
  | .locations => some "locations"
  | .file => none
  | .help => some "help"
  | .version => some "version"

def short? : Slot → Option Char
  | .verbose => some 'v'
  | .config => some 'c'
  | .source => some 'e'
  | .format => some 'f'
  | .locations => some 'l'
  | .file => none
  | .help => some 'h'
  | .version => some 'V'

def takesValue : Slot → Bool
  | .config | .source | .format | .file => true
  | .verbose | .locations | .help | .version => false

end Slot

/-- Where on the command line an argument stands: before the command, or after it. -/
abbrev Level := Option Command

/-- The options that may stand at a level. Those before the command may stand after it too,
except that the version is not asked of a command. -/
def Level.slots : Level → List Slot
  | none => [.verbose, .config, .help, .version]
  | some .tokens => [.source, .format, .locations, .verbose, .config, .help]
  | some .session => [.verbose, .config, .help]

inductive UsageFault where
  | missingCommand
  | unknownCommand (word : String)
  | unknownOption (word : String)
  | missingValue
  | surplusValue (option : String)
  | surplusArgument (word : String)
  | repeated (slot : Slot)
  | emptyPath
  | unknownFormat (name : String)
  | twoInputs
  deriving DecidableEq, Repr

inductive Page where
  | program
  | command (command : Command)
  | help
  deriving DecidableEq, Repr

inductive Supply where
  | source (text : String)
  | file (path : String)
  | standardInput
  deriving DecidableEq, Repr

inductive Task where
  | tokens (supply : Supply) (format : Option Format) (locations : Bool)
  | session
  deriving DecidableEq, Repr

structure Invocation where
  verbose : Bool
  config : Option String
  task : Task
  deriving DecidableEq, Repr

inductive Request where
  | help (page : Page)
  | version
  | run (invocation : Invocation)
  deriving DecidableEq, Repr

end TokenScan.Arguments
