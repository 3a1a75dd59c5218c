import TokenScan.Diagnostic
import TokenScan.Listing
import TokenScan.Scanner

/-! What a run says, before it is turned into text. Log records are always there and are shown
only to those who want them; spans carry their styles and are coloured only where wanted. -/
namespace TokenScan

inductive Emission where
  | output (styled : Styled)
  | error (styled : Styled)
  | log (record : Log.Record)
  deriving DecidableEq, Repr

structure Report where
  code : Nat
  emissions : List Emission
  deriving DecidableEq, Repr

structure Answer where
  code : Nat
  stdout : String
  stderr : String
  deriving DecidableEq, Repr

def Emission.stdout (coloured : Bool) : Emission → String
  | .output styled => styled.render coloured
  | .error _ | .log _ => ""

def Emission.stderr (verbose coloured : Bool) : Emission → String
  | .output _ => ""
  | .error styled => styled.render coloured
  | .log record => if verbose then record.line else ""

def Report.answer (verbose coloured : Bool) (report : Report) : Answer :=
  ⟨report.code, String.join (report.emissions.map (Emission.stdout coloured)),
    String.join (report.emissions.map (Emission.stderr verbose coloured))⟩

/-- The same report, with more in front. -/
def Report.behind (report : Report) (first : List Emission) : Report :=
  { report with emissions := first ++ report.emissions }

def brokenCode : Nat := 101

/-- The program breaks off and says why. Which thread it was and where is left out. -/
def Fault.report (fault : Fault) : Report := ⟨brokenCode, [.error ↑(fault.message ++ "\n")]⟩

def errorLine (message : Styled) : Emission :=
  .error (.of .redBold "error" ++ ↑": " ++ message ++ ↑"\n")

namespace Scan

def log (scan : Scan) : List Emission := scan.records.map .log

/-- The listing, and then the failure. -/
def shown (scan : Scan) (options : Listing.Options) (name source : String) : Report :=
  match Listing.render options scan.tokens with
  | .error fault => fault.report
  | .ok listing =>
    match scan.failure with
    | none => ⟨0, [.output ↑listing]⟩
    | some failure =>
      ⟨1, [.output ↑listing, .error (Diagnostic.ofFailure name source failure).styled]⟩

end Scan

end TokenScan
