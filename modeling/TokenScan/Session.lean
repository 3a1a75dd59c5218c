import TokenScan.Input
import TokenScan.Report

/-! Sessions: lines are scanned one at a time, each as a source text of its own. A line whose
first character other than blanks is a dot is a command instead; no such line could be scanned,
since no lexeme begins with a dot. -/
namespace TokenScan.Session

inductive Command where
  | help | exit | keywords
  deriving DecidableEq, Repr

/-- Lower case as far as the words of commands need it: besides the capitals A to Z, only the
Kelvin sign has a small letter of theirs. -/
def lowered (c : Char) : Char := if c = '\u212a' then 'k' else c.toLower

/-- The command that a word without its dot stands for. -/
def Command.ofWord? (word : String) : Option Command :=
  if word ∈ ["help", "h", "?"] then some .help
  else if word ∈ ["exit", "quit", "q"] then some .exit
  else if word ∈ ["keywords", "k"] then some .keywords
  else none

/-- Blanks around the command do not matter, nor does the case of its letters. -/
def Command.parse (line : String) : Option Command :=
  match (Text.trim line).toList with
  | '.' :: word => Command.ofWord? (String.ofList (word.map lowered))
  | _ => none

/-- The commands that the help shows, with what they do. -/
def shownCommands : List (String × String) := [
  (".help", "Show this help message"),
  (".keywords", "List the reserved words"),
  (".exit", "Leave the REPL")]

def banner : Emission := .output (↑"lexa 0.1.0, type " ++ .of .bold ".help" ++ ↑" for help\n")

def help : Emission :=
  .output ↑(String.join (shownCommands.map fun command =>
    "  " ++ Text.padded 12 command.1 ++ " " ++ command.2 ++ "\n"))

def keywords : Emission :=
  .output ↑(" ".intercalate (Keyword.all.map Keyword.spelling) ++ "\n")

def unknownCommand (line : String) : Emission :=
  errorLine (↑s!"unknown command {Text.trim line}, try " ++ .of .bold ".help")

def isCommandLine (line : String) : Bool := (Text.dropBlanks line.toList).head? == some '.'

/-- What a line is answered with. It depends on nothing but the line and the options. -/
def respond (options : Listing.Options) (line : String) : Report :=
  if Text.allBlank line then ⟨0, []⟩
  else if isCommandLine line then
    match Command.parse line with
    | some .help => ⟨0, [help]⟩
    | some .keywords => ⟨0, [keywords]⟩
    | some .exit => ⟨0, []⟩
    | none => ⟨0, [unknownCommand line]⟩
  else
    let result := scan line
    (result.shown options "<repl>" line).behind result.log

def breaks (options : Listing.Options) (line : String) : Bool :=
  (respond options line).code == brokenCode

/-- The lines up to the first that leaves the session. -/
def entered (lines : List String) : List String :=
  lines.takeWhile fun line => Command.parse line != some .exit

/-- The lines up to the first that the program breaks off at, which is answered still. -/
def answered (options : Listing.Options) : List String → List String
  | [] => []
  | line :: rest => line :: if breaks options line then [] else answered options rest

def leaving : Emission := .log ⟨.debug, .session, "Leaving the REPL"⟩

/-- Input that is not text ends a session, unless it was left or broken off before. -/
def run (options : Listing.Options) (input : ByteArray) : Report :=
  let (lines, complete) := Input.sessionLines input
  let heard := answered options (entered lines)
  let answers := [banner] ++ heard.flatMap fun line => (respond options line).emissions
  if heard.any (breaks options) then ⟨brokenCode, answers⟩
  else if complete || (entered lines).length < lines.length then ⟨0, answers ++ [leaving]⟩
  else
    let fault := ReadFault.notText.message
    ⟨2, answers ++ [errorLine ↑s!"{fault}: {fault}"]⟩

end TokenScan.Session
