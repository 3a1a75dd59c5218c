/-! Log records. What is recorded does not depend on whether anybody asked for the log; the
choice to show it is made once, where a run is turned into text. -/
namespace TokenScan.Log

inductive Level where
  | trace | debug | info
  deriving DecidableEq, Repr

def Level.name : Level → String
  | .trace => "TRACE"
  | .debug => "DEBUG"
  | .info => "INFO"

inductive Origin where
  | scanner | program | logger | session
  deriving DecidableEq, Repr

/-- Log lines name their origin by these fixed paths. -/
def Origin.path : Origin → String
  | .scanner => "lexa/src/lexer/scanner.rs"
  | .program => "cli/src/main.rs"
  | .logger => "cli/src/logger.rs"
  | .session => "cli/src/repl.rs"

structure Record where
  level : Level
  origin : Origin
  text : String
  deriving DecidableEq, Repr

def Record.line (record : Record) : String :=
  s!"[{record.level.name}] {record.origin.path}: {record.text}\n"

end TokenScan.Log
