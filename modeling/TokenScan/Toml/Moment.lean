import TokenScan.Toml.Reader

/-! Dates and times of day, alone or together, with or without an offset from universal time. -/
namespace TokenScan.Toml

open Reader

structure Date where
  year : Nat
  month : Nat
  day : Nat
  deriving DecidableEq, Repr

structure TimeOfDay where
  hour : Nat
  minute : Nat
  second : Nat
  fraction : List Char
  deriving DecidableEq, Repr

inductive Moment where
  | date (date : Date)
  | time (time : TimeOfDay)
  | dateTime (date : Date) (time : TimeOfDay) (offset : Option Int)
  deriving DecidableEq, Repr

def isLeapYear (year : Nat) : Bool := year % 4 == 0 && (year % 100 != 0 || year % 400 == 0)

def daysInMonth (year month : Nat) : Nat :=
  if month = 2 then (if isLeapYear year then 29 else 28)
  else if month ∈ [4, 6, 9, 11] then 30
  else 31

def digits (count least greatest : Nat) : Reader Nat := do
  let value := (← exactly Char.isDigit count).foldl
    (fun value digit => 10 * value + (digit.toNat - '0'.toNat)) 0
  require (least ≤ value && value ≤ greatest)
  return value

def date : Reader Date := do
  let year ← digits 4 0 9999
  char '-'
  let month ← digits 2 1 12
  char '-'
  let day ← digits 2 1 (daysInMonth year month)
  return ⟨year, month, day⟩

/-- A minute may have a leap second. -/
def timeOfDay : Reader TimeOfDay := do
  let hour ← digits 2 0 23
  char ':'
  let minute ← digits 2 0 59
  char ':'
  let second ← digits 2 0 60
  let fraction ← optional (do char '.'; someRun Char.isDigit)
  return ⟨hour, minute, second, fraction.getD []⟩

def offset : Reader Int := do
  match ← satisfy fun c => c ∈ ['Z', 'z', '+', '-'] with
  | '+' => return (← minutes)
  | '-' => return -(← minutes)
  | _ => return 0
where
  minutes : Reader Int := do
    let hour ← digits 2 0 23
    char ':'
    let minute ← digits 2 0 59
    return 60 * hour + minute

def moment : Reader Moment :=
  (do
    let date ← date
    let rest ← optional do
      let _ ← satisfy fun c => c ∈ ['T', 't', ' ']
      let time ← timeOfDay
      return (time, ← optional offset)
    match rest with
    | none => return .date date
    | some (time, offset) => return .dateTime date time offset) <|>
  .time <$> timeOfDay

end TokenScan.Toml
