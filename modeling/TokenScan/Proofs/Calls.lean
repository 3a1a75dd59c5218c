import TokenScan.Proofs.Scanning

/-! Calls of one scanner, in any order. What a call answers and where it leaves the scanner
depends on the scan of the whole text and on what the calls before have given, not on which
calls they were. -/
namespace TokenScan

inductive Call where
  | nextToken | next
  deriving DecidableEq, Repr

abbrev Reply := Option (Except Failure Token)

/-- Where a failure leaves the scanner: before the character, or behind the open string. -/
def Failure.rest (failure : Failure) (finish : Location) : Location :=
  match failure.reason with
  | .unexpectedCharacter _ => failure.location
  | .unterminatedString => finish

/-- What `nextToken` gives from then on. The open string has been used up. -/
def Failure.repeated (failure : Failure) (finish : Location) : Except Failure Token :=
  match failure.reason with
  | .unexpectedCharacter _ => .error failure
  | .unterminatedString => .ok (.endOfInput finish)

/-- The token that an answer delivers; the end mark delivers none. -/
def Reply.token? : Reply → Option Token
  | some (.ok token) => if token.kind = .endOfInput then none else some token
  | _ => none

def Reply.fails : Reply → Bool
  | some (.error _) => true
  | _ => false

def delivered (replies : List Reply) : List Token := replies.filterMap Reply.token?

def failed (replies : List Reply) : Bool := replies.any Reply.fails

theorem delivered_cons (answer : Reply) (replies : List Reply) :
    delivered (answer :: replies) = (Reply.token? answer).toList ++ delivered replies := by
  rw [delivered, List.filterMap_cons]
  cases Reply.token? answer <;> rfl

theorem failed_cons (answer : Reply) (replies : List Reply) :
    failed (answer :: replies) = (Reply.fails answer || failed replies) := rfl

theorem Reply.token?_of_within {token : Token} (within : token.kind ≠ .endOfInput) :
    Reply.token? (some (.ok token)) = some token := if_neg within

namespace Scanner

def call (scanner : Scanner) : Call → Turn Reply
  | .nextToken =>
    let turn := scanner.nextToken
    ⟨some turn.answer, turn.records, turn.scanner⟩
  | .next => scanner.next

def after (scanner : Scanner) : List Call → Scanner
  | [] => scanner
  | call :: calls => (scanner.call call).scanner.after calls

def replies (scanner : Scanner) : List Call → List Reply
  | [] => []
  | call :: calls => (scanner.call call).answer :: (scanner.call call).scanner.replies calls

def call? (scanner : Scanner) : Call → Except Fault (Turn Reply)
  | .nextToken => do
    let turn ← scanner.nextToken?
    return ⟨some turn.answer, turn.records, turn.scanner⟩
  | .next => scanner.next?

/-- The answers to calls in turn, and the scanner that they leave. -/
def run? (scanner : Scanner) : List Call → Except Fault (List Reply × Scanner)
  | [] => return ([], scanner)
  | call :: calls => do
    let turn ← scanner.call? call
    let (others, last) ← turn.scanner.run? calls
    return (turn.answer :: others, last)

/-- What the next call does, told by the scan of the whole text, which leads to `finish`, and by
what the calls so far have given: tokens, and whether a failure. -/
structure Follows (finish : Location) (tokens : List Token) (failure : Option Failure)
    (given : List Token) (lost : Bool) (scanner : Scanner) : Prop where
  inTurn : given <+: tokens
  token : ∀ token, tokens[given.length]? = some token → ∀ call,
    (scanner.call call).answer = some (.ok token) ∧
    (scanner.call call).scanner.cursor = token.finish
  finished : given = tokens → failure = none →
    (scanner.call .nextToken).answer = some (.ok (.endOfInput finish)) ∧
    (scanner.call .next).answer = none ∧
    ∀ call, (scanner.call call).scanner.cursor = finish
  failing : ∀ reason, failure = some reason → given = tokens → lost = false → ∀ call,
    (scanner.call call).answer = some (.error reason) ∧
    (scanner.call call).scanner.cursor = reason.rest finish
  halted : lost = true → given = tokens ∧ ∃ reason, failure = some reason ∧
    (scanner.call .next).answer = none ∧ (scanner.call .next).scanner = scanner ∧
    (scanner.call .nextToken).answer = some (reason.repeated finish) ∧
    (scanner.call .nextToken).scanner.cursor = reason.rest finish
  collect : (scanner.collect.tokens, scanner.collect.failure) =
    if lost then ([], none) else (tokens.drop given.length, failure)

/-- It has not failed, and these tokens and this failure are still to come. -/
structure Live (finish : Location) (tokens : List Token) (failure : Option Failure)
    (scanner : Scanner) : Prop where
  running : scanner.halted = false
  ahead : Scans scanner.cursor scanner.rest tokens failure
  whole : scanner.cursor.past scanner.rest = finish

/-- It has failed, and every further call leaves it as it is. -/
inductive Dead (finish : Location) : Failure → Scanner → Prop where
  | unexpected {place : Location} {c : Char} {rest : List Char} : ¬ Legal c →
      Dead finish ⟨place, .unexpectedCharacter c⟩ ⟨c :: rest, place, true⟩
  | unterminated {place : Location} : Dead finish ⟨place, .unterminatedString⟩ ⟨[], finish, true⟩

variable {finish : Location} {tokens : List Token} {failure : Option Failure} {scanner : Scanner}

theorem call_of_ok {after : Scanner} {token : Token} {records : List Log.Record}
    (running : scanner.halted = false) (turn : scanner.nextToken = ⟨.ok token, records, after⟩)
    (within : token.kind ≠ .endOfInput) (call : Call) :
    scanner.call call = ⟨some (.ok token), records, after⟩ := by
  cases call with
  | nextToken => rw [Scanner.call, turn]
  | next => rw [Scanner.call, next_of_ok running turn, if_neg within]

theorem call_of_error {after : Scanner} {failure : Failure} {records : List Log.Record}
    (running : scanner.halted = false) (turn : scanner.nextToken = ⟨.error failure, records, after⟩)
    (call : Call) : scanner.call call = ⟨some (.error failure), records, after⟩ := by
  cases call with
  | nextToken => rw [Scanner.call, turn]
  | next => rw [Scanner.call, next_of_error running turn]

theorem Live.of_token {token : Token} (live : Live finish (token :: tokens) failure scanner)
    (call : Call) : (scanner.call call).answer = some (.ok token) ∧ token.kind ≠ .endOfInput ∧
      (scanner.call call).scanner.cursor = token.finish ∧
      Live finish tokens failure (scanner.call call).scanner := by
  obtain ⟨rest, cursor, halted⟩ := scanner
  obtain ⟨running, ahead, whole⟩ := live
  simp only at running ahead whole
  subst running whole
  cases ahead with
  | @token _ gap left lexeme _ _ blank formed closed others =>
    have turn := nextToken_lexeme blank formed closed cursor false
    rw [call_of_ok rfl turn formed.kind_ne]
    refine ⟨rfl, formed.kind_ne, rfl, rfl, others, ?_⟩
    rw [Location.past_append, Location.past_append]
    rfl

theorem Live.collect (live : Live finish tokens failure scanner) :
    scanner.collect = Scan.of tokens failure := by
  obtain ⟨rest, cursor, halted⟩ := scanner
  obtain ⟨running, ahead, _⟩ := live
  simp only at running ahead
  subst running
  exact ahead.collect_eq

theorem Live.of_nil (live : Live finish [] none scanner) :
    (scanner.call .nextToken).answer = some (.ok (.endOfInput finish)) ∧
    (scanner.call .next).answer = none ∧
    ∀ call, (scanner.call call).scanner.cursor = finish ∧
      Live finish [] none (scanner.call call).scanner := by
  obtain ⟨rest, cursor, halted⟩ := scanner
  obtain ⟨running, ahead, whole⟩ := live
  simp only at running ahead whole
  subst running whole
  cases ahead with
  | blank blank =>
    have turn := nextToken_blank blank cursor false
    have marked := next_of_ok rfl turn
    have left : Live (cursor.past rest) [] none ⟨[], cursor.past rest, false⟩ :=
      ⟨rfl, .blank (by simp [Blank]), rfl⟩
    refine ⟨?_, ?_, ?_⟩
    · rw [Scanner.call, turn]
    · rw [Scanner.call, marked]
      rfl
    · intro call
      cases call with
      | nextToken =>
        rw [Scanner.call, turn]
        exact ⟨rfl, left⟩
      | next =>
        rw [Scanner.call, marked]
        exact ⟨rfl, left⟩

theorem Live.of_failure {reason : Failure} (live : Live finish [] (some reason) scanner) (call : Call) :
    (scanner.call call).answer = some (.error reason) ∧
    (scanner.call call).scanner.cursor = reason.rest finish ∧
    Dead finish reason (scanner.call call).scanner := by
  obtain ⟨rest, cursor, halted⟩ := scanner
  obtain ⟨running, ahead, whole⟩ := live
  simp only at running ahead whole
  subst running whole
  cases ahead with
  | @unexpected _ gap left c blank illegal =>
    rw [call_of_error rfl (nextToken_unexpected blank illegal cursor false)]
    exact ⟨rfl, rfl, .unexpected illegal⟩
  | @unterminated _ gap inside blank unclosed =>
    rw [call_of_error rfl (nextToken_unterminated blank unclosed cursor false), ← Location.past_append]
    exact ⟨rfl, rfl, .unterminated⟩

theorem Dead.next {reason : Failure} (dead : Dead finish reason scanner) :
    scanner.next = ⟨none, [], scanner⟩ := by
  apply next_of_halted
  cases dead <;> rfl

theorem Dead.nextToken {reason : Failure} (dead : Dead finish reason scanner) :
    scanner.nextToken.answer = reason.repeated finish ∧ scanner.nextToken.scanner = scanner ∧
    scanner.cursor = reason.rest finish := by
  have blank : Blank [] := by simp [Blank]
  cases dead with
  | @unexpected place c rest illegal =>
    have turn : Scanner.nextToken ⟨[] ++ c :: rest, place, true⟩ = _ :=
      nextToken_unexpected blank illegal place true
    rw [List.nil_append] at turn
    rw [turn]
    exact ⟨rfl, rfl, rfl⟩
  | unterminated =>
    rw [nextToken_blank blank finish true]
    exact ⟨rfl, rfl, rfl⟩

theorem Dead.call {reason : Failure} (dead : Dead finish reason scanner) (call : Call) :
    (scanner.call call).scanner = scanner := by
  cases call with
  | nextToken => exact dead.nextToken.2.1
  | next => rw [Scanner.call, dead.next]

theorem Dead.silent {reason : Failure} (dead : Dead finish reason scanner) (call : Call) :
    Reply.token? (scanner.call call).answer = none := by
  cases call with
  | nextToken =>
    rw [Scanner.call, dead.nextToken.1]
    obtain ⟨place, _ | _⟩ := reason <;> rfl
  | next =>
    rw [Scanner.call, dead.next]
    rfl

inductive Progress (finish : Location) (tokens : List Token) (failure : Option Failure) :
    List Token → Bool → Scanner → Prop where
  | live {given left : List Token} {scanner : Scanner} : tokens = given ++ left →
      Live finish left failure scanner → Progress finish tokens failure given false scanner
  | dead {reason : Failure} {scanner : Scanner} : failure = some reason →
      Dead finish reason scanner → Progress finish tokens failure tokens true scanner

theorem Progress.call {given : List Token} {lost : Bool}
    (progress : Progress finish tokens failure given lost scanner) (call : Call) :
    Progress finish tokens failure (given ++ (Reply.token? (scanner.call call).answer).toList)
      (lost || Reply.fails (scanner.call call).answer) (scanner.call call).scanner := by
  cases progress with
  | @live _ left _ parts live =>
    cases left with
    | cons token left =>
      obtain ⟨answer, within, _, next⟩ := live.of_token call
      rw [answer, Reply.token?_of_within within]
      exact .live (by simp [parts]) next
    | nil =>
      rw [List.append_nil] at parts
      cases failure with
      | none =>
        obtain ⟨mark, nothing, after⟩ := live.of_nil
        have silent : Reply.token? (scanner.call call).answer = none ∧
            Reply.fails (scanner.call call).answer = false := by
          cases call with
          | nextToken =>
            rw [mark]
            exact ⟨rfl, rfl⟩
          | next =>
            rw [nothing]
            exact ⟨rfl, rfl⟩
        rw [silent.1, silent.2]
        exact .live (by simp [parts]) (after call).2
      | some reason =>
        obtain ⟨answer, _, dead⟩ := live.of_failure call
        rw [answer, ← parts]
        have left : tokens ++ (Reply.token? (some (.error reason))).toList = tokens := List.append_nil tokens
        rw [left]
        exact .dead rfl dead
  | @dead reason _ failing dead =>
    have silent : Reply.token? (scanner.call call).answer = none := dead.silent call
    rw [silent, Option.toList_none, List.append_nil, dead.call]
    exact .dead failing dead

/-- The induction is on the calls; what was given before them is arbitrary. -/
theorem Progress.calls {given : List Token} {lost : Bool}
    (progress : Progress finish tokens failure given lost scanner) (calls : List Call) :
    Progress finish tokens failure (given ++ delivered (scanner.replies calls))
      (lost || failed (scanner.replies calls)) (scanner.after calls) := by
  induction calls generalizing scanner given lost with
  | nil =>
    rw [replies, delivered, failed, List.filterMap_nil, List.append_nil, List.any_nil, Bool.or_false]
    exact progress
  | cons call calls ih =>
    rw [replies, delivered_cons, failed_cons, ← List.append_assoc, ← Bool.or_assoc]
    exact ih (progress.call call)

theorem progress_start (source : String) :
    Progress (Location.start.past source.toList) (scan source).tokens (scan source).failure
      [] false (ofSource source) :=
  .live rfl ⟨rfl, scan_scans source, rfl⟩

theorem Progress.follows {given : List Token} {lost : Bool}
    (progress : Progress finish tokens failure given lost scanner) :
    Follows finish tokens failure given lost scanner := by
  cases progress with
  | @live _ left _ parts live =>
    subst parts
    refine
      { inTurn := List.prefix_append given left
        token := ?_
        finished := ?_
        failing := ?_
        halted := by simp
        collect := ?_ }
    · intro token there call
      cases left with
      | nil => simp at there
      | cons first more =>
        have same : first = token := by simpa using there
        obtain ⟨answer, _, cursor, _⟩ := live.of_token call
        rw [← same]
        exact ⟨answer, cursor⟩
    · rintro whole rfl
      obtain rfl : left = [] := List.self_eq_append_right.mp whole
      obtain ⟨mark, nothing, after⟩ := live.of_nil
      exact ⟨mark, nothing, fun call => (after call).1⟩
    · rintro reason rfl whole _ call
      obtain rfl : left = [] := List.self_eq_append_right.mp whole
      obtain ⟨answer, cursor, _⟩ := live.of_failure call
      exact ⟨answer, cursor⟩
    · rw [live.collect]
      simp [Scan.of]
  | @dead reason _ failing dead =>
    have nothing := dead.next
    obtain ⟨answer, kept, cursor⟩ := dead.nextToken
    refine
      { inTurn := List.prefix_rfl
        token := by simp
        finished := by simp [failing]
        failing := by simp
        halted := ?_
        collect := ?_ }
    · intro _
      refine ⟨rfl, reason, failing, ?_, dead.call .next, congrArg some answer, ?_⟩
      · rw [Scanner.call, nothing]
      · rw [dead.call, cursor]
    · rw [collect_of_none nothing]
      rfl

theorem calls_follow_scan (source : String) :
    let finish := Location.start.past source.toList
    let tokens := (scan source).tokens
    let failure := (scan source).failure
    let scanner := ofSource source
    (∀ calls : List Call, Follows finish tokens failure (delivered (scanner.replies calls))
      (failed (scanner.replies calls)) (scanner.after calls)) ∧
    tokenize source = match failure with
      | none => .ok tokens
      | some reason => .error reason := by
  intro finish tokens failure scanner
  refine ⟨?_, gather_eq scanner⟩
  intro calls
  exact ((progress_start source).calls calls).follows

end Scanner

end TokenScan
