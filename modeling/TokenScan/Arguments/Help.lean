import TokenScan.Arguments.Request
import TokenScan.Styled
import TokenScan.Text.Layout

/-! Help pages. What an option, a command or an argument is called stands in one column, what
it does in the next. -/
namespace TokenScan.Arguments

structure Entry where
  term : Styled
  meaning : String

namespace Entry

def width (entry : Entry) : Nat := (entry.term.render false).length

/-- Terms are filled up even where nothing follows them. -/
def shown (columnWidth : Nat) (entry : Entry) : Styled :=
  ↑"  " ++ entry.term ++ ↑(Text.spaces (columnWidth - entry.width) ++ "  " ++ entry.meaning ++ "\n")

end Entry

def Slot.valueName? : Slot → Option String
  | .config => some "CONFIG"
  | .source => some "SOURCE"
  | .format => some "FORMAT"
  | .verbose | .locations | .file | .help | .version => none

def Slot.meaning : Slot → String
  | .config => "Path of the config file, `lexa.toml` in the working directory by default"
  | .format => "[possible values: " ++ ", ".intercalate (Format.all.map Format.name) ++ "]"
  | .locations => "Show where each token starts"
  | .help => "Print help"
  | .version => "Print version"
  | .verbose | .source | .file => ""

def Slot.term (slot : Slot) : Styled :=
  let letter : Styled := slot.short?.elim [] fun letter =>
    Styled.of .bold ("-" ++ letter.toString) ++ ↑", "
  let name : Styled := slot.long?.elim [] fun name => Styled.of .bold ("--" ++ name)
  let value : Styled := slot.valueName?.elim [] fun name => ↑(" <" ++ name ++ ">")
  letter ++ name ++ value

def Slot.entry (slot : Slot) : Entry := ⟨slot.term, slot.meaning⟩

def Command.meaning : Command → String
  | .tokens => "List the tokens of a file, of `--source`, or of standard input"
  | .session => "Scan lines interactively"

def helpMeaning : String := "Print this message or the help of the given subcommand(s)"

def block (heading : String) (entries : List Entry) : Styled :=
  let columnWidth := (entries.map Entry.width).foldr max 0
  ↑"\n" ++ .of .heading heading ++ ↑"\n" ++ entries.flatMap (Entry.shown columnWidth)

def usage (command arguments : String) : Styled :=
  .of .heading "Usage:" ++ ↑" " ++ .of .bold command ++ ↑(" " ++ arguments ++ "\n")

def options (level : Level) : Styled := block "Options:" (level.slots.map Slot.entry)

/-- Help stands last among the options but for the version. -/
def Page.styled : Page → Styled
  | .program =>
    usage "lexa" "[OPTIONS] <COMMAND>" ++
      block "Commands:" [⟨.of .bold "tokens", Command.tokens.meaning⟩,
        ⟨.of .bold "repl", Command.session.meaning⟩, ⟨.of .bold "help", helpMeaning⟩] ++
      options none
  | .command .tokens =>
    ↑(Command.tokens.meaning ++ "\n\n") ++ usage "lexa tokens" "[OPTIONS] [FILE]" ++
      block "Arguments:" [⟨↑"[FILE]", ""⟩] ++ options (some .tokens)
  | .command .session =>
    ↑(Command.session.meaning ++ "\n\n") ++ usage "lexa repl" "[OPTIONS]" ++ options (some .session)
  | .help =>
    ↑(helpMeaning ++ "\n\n") ++ usage "lexa help" "[COMMAND]..." ++
      block "Arguments:" [⟨↑"[COMMAND]...", "Print help for the subcommand(s)"⟩]

def versionLine : String := "lexa-cli 0.1.0\n"

end TokenScan.Arguments
