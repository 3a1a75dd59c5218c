import TokenScan.Failure
import TokenScan.Text.Blank
import TokenScan.Token

/-! The scanner: a place in a source text from which tokens are taken one by one. Each call
answers and leaves the scanner behind that answer. `nextToken` always answers, with the end
mark once nothing is left; `next` stops there, and for good after a failure. `collect` takes
all that `next` gives. -/
namespace TokenScan

/-- The bytes of what has been read, summed up character by character. -/
def Text.byteCount? (chars : List Char) : Except Fault Nat :=
  chars.foldlM (fun count c => Word.add? count c.utf8Size) 0

/-- `rest` are the characters from `cursor` on. -/
structure Scanner where
  rest : List Char
  cursor : Location
  halted : Bool
  deriving DecidableEq, Repr

/-- One call: its answer, what it put on record, and the scanner it leaves. -/
structure Turn (α : Type) where
  answer : α
  records : List Log.Record
  scanner : Scanner

/-- All tokens up to the end of the text or the first failure. -/
structure Scan where
  tokens : List Token
  failure : Option Failure
  records : List Log.Record
  deriving DecidableEq, Repr

namespace Scanner

def ofSource (source : String) : Scanner := ⟨source.toList, .start, false⟩

def skipBlanks (scanner : Scanner) : Scanner :=
  { scanner with
    rest := Text.dropBlanks scanner.rest
    cursor := scanner.cursor.past (scanner.rest.takeWhile Text.isBlank) }

def skipBlanks? (scanner : Scanner) : Except Fault Scanner := do
  let cursor ← scanner.cursor.past? (scanner.rest.takeWhile Text.isBlank)
  return { scanner with rest := Text.dropBlanks scanner.rest, cursor }

/-- A failure is reported where the cursor stands before anything is read in vain. -/
def nextToken (scanner : Scanner) : Turn (Except Failure Token) :=
  let scanner := scanner.skipBlanks
  match Head.read scanner.rest with
  | .nothing => ⟨.ok (.endOfInput scanner.cursor), [], scanner⟩
  | .lexeme found rest =>
    let token := Token.written found scanner.cursor
    ⟨.ok token, [token.record], { scanner with rest, cursor := token.finish }⟩
  | .failure reason passed rest =>
    let failure := ⟨scanner.cursor, reason⟩
    ⟨.error failure, [failure.record], ⟨rest, scanner.cursor.past passed, true⟩⟩

/-- The record of a token names the place where it begins. -/
def nextToken? (scanner : Scanner) : Except Fault (Turn (Except Failure Token)) := do
  let scanner ← scanner.skipBlanks?
  match Head.read scanner.rest with
  | .nothing => return ⟨.ok (.endOfInput scanner.cursor), [], scanner⟩
  | .lexeme found rest =>
    let finish ← scanner.cursor.past? found.written
    let token : Token := ⟨found, scanner.cursor, finish⟩
    let _ ← token.start.label?
    return ⟨.ok token, [token.record], { scanner with rest, cursor := finish }⟩
  | .failure reason passed rest =>
    let cursor ← scanner.cursor.past? passed
    let failure : Failure := ⟨scanner.cursor, reason⟩
    return ⟨.error failure, [failure.record], ⟨rest, cursor, true⟩⟩

/-- A halted scanner is not consulted, and stays where it is. -/
def next (scanner : Scanner) : Turn (Option (Except Failure Token)) :=
  if scanner.halted then ⟨none, [], scanner⟩
  else
    let turn := scanner.nextToken
    match turn.answer with
    | .ok token => ⟨if token.kind = .endOfInput then none else some (.ok token), turn.records, turn.scanner⟩
    | .error failure => ⟨some (.error failure), turn.records, turn.scanner⟩

def next? (scanner : Scanner) : Except Fault (Turn (Option (Except Failure Token))) :=
  if scanner.halted then return ⟨none, [], scanner⟩
  else do
    let turn ← scanner.nextToken?
    match turn.answer with
    | .ok token =>
      return ⟨if token.kind = .endOfInput then none else some (.ok token), turn.records, turn.scanner⟩
    | .error failure => return ⟨some (.error failure), turn.records, turn.scanner⟩

theorem agrees_skipBlanks? (scanner : Scanner) : Agrees scanner.skipBlanks? scanner.skipBlanks :=
  (scanner.cursor.agrees_past? _).bind (agrees_pure _)

theorem agrees_nextToken? (scanner : Scanner) : Agrees scanner.nextToken? scanner.nextToken := by
  apply scanner.agrees_skipBlanks?.bind
  simp only [nextToken]
  cases Head.read scanner.skipBlanks.rest with
  | nothing => exact agrees_pure _
  | lexeme found rest =>
    exact (Location.agrees_past? _ _).bind ((Location.agrees_label? _).bind (agrees_pure _))
  | failure reason passed rest => exact (Location.agrees_past? _ _).bind (agrees_pure _)

theorem agrees_next? (scanner : Scanner) : Agrees scanner.next? scanner.next := by
  rw [next?, next]
  by_cases halted : scanner.halted = true
  · rw [if_pos halted, if_pos halted]
    exact agrees_pure _
  · rw [if_neg halted, if_neg halted]
    apply scanner.agrees_nextToken?.bind
    simp only
    cases scanner.nextToken.answer with
    | ok token => exact agrees_pure _
    | error failure => exact agrees_pure _

theorem skipBlanks_shorter (scanner : Scanner) :
    scanner.skipBlanks.rest.length ≤ scanner.rest.length :=
  (List.dropWhile_sublist _).length_le

/-- A token other than the end mark takes at least one character. -/
theorem nextToken_shorter {scanner after : Scanner} {token : Token} {records : List Log.Record}
    (turn : scanner.nextToken = ⟨.ok token, records, after⟩) (within : token.kind ≠ .endOfInput) :
    after.rest.length < scanner.rest.length := by
  have blanks := scanner.skipBlanks_shorter
  unfold nextToken at turn
  simp only at turn
  split at turn <;> simp only [Turn.mk.injEq, Except.ok.injEq, reduceCtorEq, false_and] at turn
  · exact absurd (congrArg (·.kind) turn.1.symm) within
  · rename_i found rest reads
    have := Head.read_shorter reads
    rw [← turn.2.2]
    simp only
    omega

theorem next_shorter {scanner after : Scanner} {token : Token} {records : List Log.Record}
    (turn : scanner.next = ⟨some (.ok token), records, after⟩) :
    after.rest.length < scanner.rest.length := by
  unfold next at turn
  split at turn
  · simp at turn
  · simp only at turn
    split at turn
    · rename_i given answers
      simp only [Turn.mk.injEq, Option.ite_none_left_eq_some, Option.some.injEq,
        Except.ok.injEq] at turn
      obtain ⟨⟨within, rfl⟩, _, rfl⟩ := turn
      exact nextToken_shorter (by rw [← answers]) within
    · simp at turn

theorem next?_shorter {scanner after : Scanner} {token : Token} {records : List Log.Record}
    (turn : scanner.next? = .ok ⟨some (.ok token), records, after⟩) :
    after.rest.length < scanner.rest.length :=
  next_shorter (scanner.agrees_next? _ turn).symm

/-- Tokens before a failure are kept. -/
def collect (scanner : Scanner) : Scan :=
  match turn : scanner.next with
  | ⟨none, records, _⟩ => ⟨[], none, records⟩
  | ⟨some (.error failure), records, _⟩ => ⟨[], some failure, records⟩
  | ⟨some (.ok token), records, after⟩ =>
    have : after.rest.length < scanner.rest.length := next_shorter turn
    let others := after.collect
    ⟨token :: others.tokens, others.failure, records ++ others.records⟩
termination_by scanner.rest.length

theorem collect_of_none {scanner after : Scanner} {records : List Log.Record}
    (turn : scanner.next = ⟨none, records, after⟩) : scanner.collect = ⟨[], none, records⟩ := by
  rw [collect]
  split <;> simp_all

theorem collect_of_failure {scanner after : Scanner} {failure : Failure} {records : List Log.Record}
    (turn : scanner.next = ⟨some (.error failure), records, after⟩) :
    scanner.collect = ⟨[], some failure, records⟩ := by
  rw [collect]
  split <;> simp_all

theorem collect_of_token {scanner after : Scanner} {token : Token} {records : List Log.Record}
    (turn : scanner.next = ⟨some (.ok token), records, after⟩) :
    scanner.collect = ⟨token :: after.collect.tokens, after.collect.failure,
      records ++ after.collect.records⟩ := by
  rw [collect]
  split <;> simp_all

def collect? (scanner : Scanner) : Except Fault Scan :=
  match turn : scanner.next? with
  | .error fault => .error fault
  | .ok ⟨none, records, _⟩ => .ok ⟨[], none, records⟩
  | .ok ⟨some (.error failure), records, _⟩ => .ok ⟨[], some failure, records⟩
  | .ok ⟨some (.ok token), records, after⟩ =>
    have : after.rest.length < scanner.rest.length := next?_shorter turn
    after.collect?.map fun others =>
      ⟨token :: others.tokens, others.failure, records ++ others.records⟩
termination_by scanner.rest.length

theorem collect?_of_none {scanner after : Scanner} {records : List Log.Record}
    (turn : scanner.next? = .ok ⟨none, records, after⟩) :
    scanner.collect? = .ok ⟨[], none, records⟩ := by
  rw [collect?]
  split <;> simp_all

theorem collect?_of_failure {scanner after : Scanner} {failure : Failure} {records : List Log.Record}
    (turn : scanner.next? = .ok ⟨some (.error failure), records, after⟩) :
    scanner.collect? = .ok ⟨[], some failure, records⟩ := by
  rw [collect?]
  split <;> simp_all

theorem collect?_of_token {scanner after : Scanner} {token : Token} {records : List Log.Record}
    (turn : scanner.next? = .ok ⟨some (.ok token), records, after⟩) :
    scanner.collect? = after.collect?.map fun others =>
      ⟨token :: others.tokens, others.failure, records ++ others.records⟩ := by
  rw [collect?]
  split <;> simp_all

/-- The tokens alone, or the failure that keeps `next` from giving them all. -/
def gather (scanner : Scanner) : Except Failure (List Token) :=
  match turn : scanner.next with
  | ⟨none, _, _⟩ => .ok []
  | ⟨some (.error failure), _, _⟩ => .error failure
  | ⟨some (.ok token), _, after⟩ =>
    have : after.rest.length < scanner.rest.length := next_shorter turn
    after.gather.map (token :: ·)
termination_by scanner.rest.length

/-- The two ways to take everything differ in what is left of a scan that fails. -/
theorem gather_eq (scanner : Scanner) :
    scanner.gather = match scanner.collect.failure with
      | none => .ok scanner.collect.tokens
      | some failure => .error failure := by
  fun_induction Scanner.gather scanner with
  | case1 scanner records after turn => simp [collect_of_none turn]
  | case2 scanner failure records after turn => simp [collect_of_failure turn]
  | case3 scanner token records after turn _ ih =>
    rw [ih, collect_of_token turn]
    cases after.collect.failure <;> rfl

end Scanner

def scan (source : String) : Scan := (Scanner.ofSource source).collect

/-- All tokens of a text, or the failure that keeps it from having them. -/
def tokenize (source : String) : Except Failure (List Token) := (Scanner.ofSource source).gather

end TokenScan
