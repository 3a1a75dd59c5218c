import TokenScan.Program

/-! The command line program. What the run may ask for is read beforehand, so that the run
itself is the function of `Program`. -/
namespace TokenScan.Main

open Arguments

/-- Codes of the system may come with their sign turned. -/
def systemCode (code : UInt32) : Nat := min code.toNat (0 - code).toNat

def readFault : IO.Error → ReadFault
  | .noFileOrDirectory .. => .notFound
  | .inappropriateType _ code _ =>
    if systemCode code = 20 then .notDirectory else .isDirectory
  | .permissionDenied _ code _ => .other s!"Permission denied (os error {systemCode code})"
  | .invalidArgument _ code details =>
    if systemCode code = 36 then .nameTooLong
    else .other s!"{details.capitalize} (os error {systemCode code})"
  | error => .other (toString error)

def readFile (path : String) : IO (String × Except ReadFault ByteArray) := do
  try
    return (path, .ok (← IO.FS.readBinFile path))
  catch error => return (path, .error (readFault error))

/-- Colours can be forced or forbidden; otherwise they are for terminals, if they are wanted there. -/
def coloursWanted (forced forbidden wanted : Option String) (terminal : Bool) : Bool :=
  if forced.any (· != "0") then true
  else if forbidden.isSome then false
  else wanted.all (· != "0") && terminal

/-- Where in the document it is refused is not looked for. -/
def pointer (_ : String) : Settings.Error → String
  | .notDocument => "TOML parse error\n"
  | .misfit _ => ""

def surroundings (request : Request) : IO Surroundings := do
  let coloured := coloursWanted (← IO.getEnv "CLICOLOR_FORCE") (← IO.getEnv "NO_COLOR")
    (← IO.getEnv "CLICOLOR") (← (← IO.getStdout).isTty)
  match request with
  | .run invocation =>
    let files ← (Program.paths invocation).mapM readFile
    let standardInput ← if Program.needsInput invocation then (← IO.getStdin).readBinToEnd
      else pure ByteArray.empty
    let look (path : String) := (files.lookup path).getD (.error .notFound)
    return ⟨standardInput, look, pointer, coloured⟩
  | .help _ | .version =>
    return ⟨ByteArray.empty, fun _ => .error .notFound, pointer, coloured⟩

def usageNotice : UsageFault → String
  | .missingCommand => "a command is missing"
  | .unknownCommand word => s!"unknown command {word}"
  | .unknownOption word => s!"unknown option {word}"
  | .missingValue => "an option has no value"
  | .surplusValue option => s!"option {option} takes no value"
  | .surplusArgument word => s!"unexpected argument {word}"
  | .repeated _ => "an option is given twice"
  | .emptyPath => "a path is empty"
  | .unknownFormat name => s!"unknown format {name}"
  | .twoInputs => "a source text and a file are given at once"

end TokenScan.Main

open TokenScan in
def main (arguments : List String) : IO UInt32 := do
  match Arguments.read arguments with
  | .error fault =>
    IO.eprintln s!"error: {Main.usageNotice fault}, see --help"
    return 2
  | .ok request =>
    let answer := Program.respond (← Main.surroundings request) request
    IO.print answer.stdout
    IO.eprint answer.stderr
    return answer.code.toUInt32
