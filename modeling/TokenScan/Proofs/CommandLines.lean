import Mathlib.Data.List.Nodup
import TokenScan.Proofs.Outcome
import TokenScan.Proofs.Spellings

/-! Command lines for a list of tokens. What is asked for decides the answer: the spelling of the
options does not matter, nor their order, nor on which side of the command those stand that may
stand on both. A source text and a file exclude each other, and of two paths of settings the one
behind the command counts. -/
namespace TokenScan

namespace Arguments

variable {values : Values} {slot : Slot} {text : String}

theorem Values.has_eq_false_iff : values.has slot = false ↔ slot ∉ values.map Prod.fst := by
  rw [← Bool.not_eq_true, has, List.any_eq_true]
  simp

theorem Values.nodup_append_single : ((values ++ [(slot, text)]).map Prod.fst).Nodup ↔
    (values.map Prod.fst).Nodup ∧ values.has slot = false := by
  rw [has_eq_false_iff, List.map_append, List.map_singleton, List.nodup_append_comm,
    List.singleton_append, List.nodup_cons, and_comm]

/-- Values can be given if no slot is filled twice and each takes its text. -/
theorem Values.fill?_eq_some_iff {entries filled : Values} (once : (values.map Prod.fst).Nodup) :
    values.fill? entries = some filled ↔ ((values ++ entries).map Prod.fst).Nodup ∧
      (∀ entry ∈ entries, entry.1.Accepts entry.2) ∧ filled = values ++ entries := by
  induction entries generalizing values with
  | nil => simp [fill?_nil, once, eq_comm]
  | cons entry entries ih =>
    obtain ⟨slot, text⟩ := entry
    have parts : values ++ (slot, text) :: entries = values ++ [(slot, text)] ++ entries := by simp
    rw [fill?_cons, Option.bind_eq_some_iff, List.forall_mem_cons, parts]
    constructor
    · rintro ⟨next, adds, rest⟩
      obtain ⟨free, accepts, rfl⟩ := add_eq_ok_iff.mp (toOption_eq_some_iff.mp adds)
      obtain ⟨whole, others, same⟩ := (ih (nodup_append_single.mpr ⟨once, free⟩)).mp rest
      exact ⟨whole, ⟨accepts, others⟩, same⟩
    · rintro ⟨whole, ⟨accepts, others⟩, same⟩
      have front : ((values ++ [(slot, text)]).map Prod.fst).Nodup := by
        rw [List.map_append] at whole
        exact (List.nodup_append.mp whole).1
      have adds := add_eq_ok_iff.mpr ⟨(nodup_append_single.mp front).2, accepts, rfl⟩
      exact ⟨_, toOption_eq_some_iff.mpr adds, (ih front).mpr ⟨whole, others, same⟩⟩

theorem Values.fill?_start_eq_some_iff {entries filled : Values} :
    Values.fill? [] entries = some filled ↔ (entries.map Prod.fst).Nodup ∧
      (∀ entry ∈ entries, entry.1.Accepts entry.2) ∧ filled = entries :=
  fill?_eq_some_iff List.nodup_nil

theorem Values.get?_eq_some_iff (once : (values.map Prod.fst).Nodup) :
    values.get? slot = some text ↔ (slot, text) ∈ values := by
  rw [get?, List.lookup_eq_some_iff]
  constructor
  · rintro ⟨front, back, rfl, _⟩
    simp
  · intro member
    obtain ⟨front, back, rfl⟩ := List.append_of_mem member
    rw [List.map_append, List.map_cons, List.nodup_middle, List.nodup_cons] at once
    refine ⟨front, back, rfl, fun entry among => ?_⟩
    rw [bne_iff_ne]
    rintro rfl
    exact once.1 (List.mem_append_left _ (List.mem_map.mpr ⟨entry, among, rfl⟩))

theorem Values.get?_append (values others : Values) (slot : Slot) :
    Values.get? (values ++ others) slot = (values.get? slot).or (others.get? slot) :=
  List.lookup_append

theorem Values.get?_eq_none (absent : ∀ entry ∈ values, entry.1 ≠ slot) : values.get? slot = none :=
  List.lookup_eq_none_iff.mpr fun entry member => bne_iff_ne.mpr (absent entry member).symm

theorem Values.has_eq_isSome (values : Values) (slot : Slot) :
    values.has slot = (values.get? slot).isSome := by
  rw [Bool.eq_iff_iff, get?, List.lookup_isSome_iff, has, List.any_eq_true]
  simp only [Bool.beq_comm]

/-- Whatever is written before the command is known there. -/
theorem Lettered.known {level : Level} {letters : List Char} {last : Option Slot}
    (lettered : Lettered level values letters last) :
    (∀ entry ∈ values, entry.1 ∈ level.slots) ∧ ∀ slot, last = some slot → slot ∈ level.slots := by
  induction lettered with
  | flag flag _ => exact ⟨by simpa using flag.known, nofun⟩
  | more flag _ _ ih => exact ⟨List.forall_mem_cons.mpr ⟨flag.known, ih.1⟩, ih.2⟩
  | equals _ option _ => exact ⟨by simpa using option.known, nofun⟩
  | joined option => exact ⟨by simpa using option.known, nofun⟩
  | apart option => exact ⟨nofun, by rintro slot ⟨⟩; exact option.known⟩

theorem Written.known {words : List String} (written : Written none values words) :
    ∀ entry ∈ values, entry.1 ∈ Level.slots none := by
  cases written with
  | long flag => simpa using flag.known
  | longEquals _ option => simpa using option.known
  | longApart option => simpa using option.known
  | letters lettered => exact lettered.known.1
  | lettersApart lettered =>
    intro entry member
    rcases List.mem_append.mp member with before | last
    · exact lettered.known.1 entry before
    · obtain rfl := List.mem_singleton.mp last
      exact lettered.known.2 _ rfl
  | file command => cases command

theorem Spelled.known {arguments : List String} (spelled : Spelled none values arguments) :
    ∀ entry ∈ values, entry.1 ∈ Level.slots none := by
  induction spelled with
  | nil => exact nofun
  | cons written _ ih =>
    intro entry member
    exact (List.mem_append.mp member).elim (written.known entry) (ih entry)

/-- What can be asked of a list of tokens, with paths that name something. -/
structure Choice where
  verbose : Bool
  config : Option String
  supply : Supply
  format : Option Format
  locations : Bool
  configNamed : config ≠ some ""
  fileNamed : supply ≠ .file ""

namespace Choice

def task (choice : Choice) : Task := .tokens choice.supply choice.format choice.locations

def invocation (choice : Choice) : Invocation := ⟨choice.verbose, choice.config, choice.task⟩

/-- What has to be given for a slot, if anything; a flag comes with the empty text. -/
def text? (choice : Choice) : Slot → Option String
  | .verbose => if choice.verbose then some "" else none
  | .config => choice.config
  | .source => match choice.supply with
    | .source text => some text
    | .file _ | .standardInput => none
  | .format => choice.format.map Format.name
  | .locations => if choice.locations then some "" else none
  | .file => match choice.supply with
    | .file path => some path
    | .source _ | .standardInput => none
  | .help | .version => none

/-- The values give all that is chosen, each thing once, and nothing else. -/
structure GivenBy (choice : Choice) (values : Values) : Prop where
  once : (values.map Prod.fst).Nodup
  given : ∀ slot text, (slot, text) ∈ values ↔ choice.text? slot = some text

variable {choice : Choice}

theorem accepts (chosen : choice.text? slot = some text) : slot.Accepts text := by
  obtain ⟨verbose, config, supply, format, locations, configNamed, fileNamed⟩ := choice
  cases slot
  case config =>
    rintro rfl
    exact configNamed chosen
  case file =>
    rintro rfl
    cases supply <;> cases chosen
    exact fileNamed rfl
  case format =>
    obtain ⟨format, rfl, rfl⟩ := Option.map_eq_some_iff.mp chosen
    simp [Slot.Accepts]
  all_goals trivial

theorem GivenBy.accepts (given : choice.GivenBy values) :
    ∀ entry ∈ values, entry.1.Accepts entry.2 :=
  fun entry member => Choice.accepts ((given.given entry.1 entry.2).mp member)

theorem GivenBy.fills (given : choice.GivenBy values) : Values.fill? [] values = some values :=
  Values.fill?_start_eq_some_iff.mpr ⟨given.once, given.accepts, rfl⟩

theorem GivenBy.get?_eq (given : choice.GivenBy values) (slot : Slot) :
    values.get? slot = choice.text? slot := by
  apply Option.ext
  intro text
  rw [Values.get?_eq_some_iff given.once, given.given]

theorem GivenBy.has_eq (given : choice.GivenBy values) (slot : Slot) :
    values.has slot = (choice.text? slot).isSome := by
  rw [Values.has_eq_isSome, given.get?_eq]

/-- Order does not matter for what is given. -/
theorem GivenBy.perm {others : Values} (given : choice.GivenBy values) (same : values.Perm others) :
    choice.GivenBy others := by
  refine ⟨(same.map _).nodup_iff.mp given.once, ?_⟩
  intro slot text
  rw [← given.given, same.mem_iff]

theorem isSome_verbose (choice : Choice) : (choice.text? .verbose).isSome = choice.verbose := by
  unfold text?
  cases choice.verbose <;> rfl

/-- The task is told by what may only stand behind the command. -/
theorem task_eq (choice : Choice)
    (told : ∀ slot ∉ Level.slots none, values.get? slot = choice.text? slot) :
    Command.tokens.task values = .ok choice.task := by
  have source := told .source (by decide)
  have format := told .format (by decide)
  have locations := told .locations (by decide)
  have file := told .file (by decide)
  have supplied : values.supply = .ok choice.supply := by
    rw [Values.supply, source, file, text?, text?]
    cases choice.supply <;> rfl
  have named : (values.get? .format).bind Format.ofName? = choice.format := by
    rw [format, text?]
    cases choice.format <;> simp
  have located : values.has .locations = choice.locations := by
    rw [Values.has_eq_isSome, locations, text?]
    cases choice.locations <;> rfl
  rw [Command.task, supplied, named, located]
  rfl

end Choice

/-- A command line for a list of tokens: the values given before the command and behind it, and how
they are spelled. -/
structure CommandLine where
  outer : Values
  inner : Values
  before : List String
  after : List String
  spelledBefore : Spelled none outer before
  spelledAfter : Spelled (some .tokens) inner after

namespace CommandLine

variable {line : CommandLine} {choice : Choice}

def arguments (line : CommandLine) : List String := line.before ++ Command.tokens.name :: line.after

theorem read_eq_ok {task : Task} (outer : Values.fill? [] line.outer = some line.outer)
    (inner : Values.fill? [] line.inner = some line.inner)
    (work : Command.tokens.task line.inner = .ok task) :
    read line.arguments = .ok (.run (invocation line.outer line.inner task)) := by
  apply toOption_eq_some_iff.mp
  rw [arguments, read_spelled line.spelledBefore line.spelledAfter, outer, inner,
    Option.bind_eq_bind, Option.bind_some, Option.bind_eq_bind, Option.bind_some, work]
  rfl

/-- What is chosen stands on one side or the other; the task can only be told behind the command. -/
theorem read_chosen (given : choice.GivenBy (line.outer ++ line.inner)) :
    read line.arguments = .ok (.run choice.invocation) := by
  have once := given.once
  rw [List.map_append, List.nodup_append] at once
  have outer : Values.fill? [] line.outer = some line.outer := Values.fill?_start_eq_some_iff.mpr
    ⟨once.1, fun entry member => given.accepts entry (List.mem_append_left _ member), rfl⟩
  have inner : Values.fill? [] line.inner = some line.inner := Values.fill?_start_eq_some_iff.mpr
    ⟨once.2.1, fun entry member => given.accepts entry (List.mem_append_right _ member), rfl⟩
  have told : ∀ slot ∉ Level.slots none, line.inner.get? slot = choice.text? slot := by
    intro slot unknown
    have absent : line.outer.get? slot = none := Values.get?_eq_none fun entry member same =>
      unknown (same ▸ line.spelledBefore.known entry member)
    rw [← given.get?_eq, Values.get?_append, absent, Option.none_or]
  have verbose : (line.outer.has .verbose || line.inner.has .verbose) = choice.verbose := by
    rw [← Values.has_append, given.has_eq, Choice.isSome_verbose]
  have config : (line.inner.get? .config <|> line.outer.get? .config) = choice.config := by
    rw [Option.orElse_eq_orElse, Option.orElse_eq_or, ← Values.get?_append]
    exact (given.perm List.perm_append_comm).get?_eq .config
  rw [read_eq_ok outer inner (choice.task_eq told), invocation, verbose, config]
  rfl

/-- Settings may be asked for on both sides. -/
theorem read_twice {earlier later : Choice} (first : earlier.GivenBy line.outer)
    (last : later.GivenBy line.inner) :
    read line.arguments = .ok (.run ⟨earlier.verbose || later.verbose,
      later.config <|> earlier.config, later.task⟩) := by
  have work := later.task_eq fun slot _ => last.get?_eq slot
  rw [read_eq_ok first.fills last.fills work, invocation, first.has_eq, last.has_eq, first.get?_eq,
    last.get?_eq, Choice.isSome_verbose, Choice.isSome_verbose]
  rfl

theorem read_refused (source : line.inner.has .source = true) (file : line.inner.has .file = true) :
    ∃ fault, read line.arguments = .error fault := by
  rw [Values.has_eq_isSome] at source file
  obtain ⟨text, source⟩ := Option.isSome_iff_exists.mp source
  obtain ⟨path, file⟩ := Option.isSome_iff_exists.mp file
  have refused : Command.tokens.task line.inner = .error .twoInputs := by
    rw [Command.task, Values.supply, source, file]
    rfl
  apply toOption_eq_none_iff.mp
  rw [arguments, read_spelled line.spelledBefore line.spelledAfter]
  cases Values.fill? [] line.outer with
  | none => rfl
  | some outer =>
    cases filled : Values.fill? [] line.inner with
    | none => rfl
    | some inner =>
      obtain ⟨_, _, rfl⟩ := Values.fill?_start_eq_some_iff.mp filled
      simp only [Option.bind_eq_bind, Option.bind_some, refused]
      rfl

end CommandLine

end Arguments

namespace Program

open Arguments

/-- What is asked for decides the answer, whatever the order and the spelling of the options and the
file, and on whichever side of the command those stand that may stand on both. A source text and a
file at once are refused. What may stand on both sides may be given on both, and then the path behind
the command is the one used. -/
theorem options_in_any_order (surroundings : Surroundings) (line : CommandLine) :
    (∀ choice : Choice, choice.GivenBy (line.outer ++ line.inner) →
      answer surroundings line.arguments = .ok (run surroundings choice.invocation)) ∧
    (line.inner.has .source = true → line.inner.has .file = true →
      ∃ fault, answer surroundings line.arguments = .error fault) ∧
    ∀ earlier later : Choice, earlier.GivenBy line.outer → later.GivenBy line.inner →
      answer surroundings line.arguments = .ok (run surroundings
        ⟨earlier.verbose || later.verbose, later.config <|> earlier.config, later.task⟩) := by
  refine ⟨?_, ?_, ?_⟩
  · intro choice given
    rw [answer, line.read_chosen given]
    rfl
  · intro source file
    obtain ⟨fault, reads⟩ := CommandLine.read_refused source file
    exact ⟨fault, by rw [answer, reads]; rfl⟩
  · intro earlier later first last
    rw [answer, CommandLine.read_twice first last]
    rfl

/-- A source text that looks like an option beside a path that looks like the command, a text beside
a file, and settings asked for on both sides. -/
theorem options_in_any_order_on_lines :
    answer (holding "a.c" "x") ["-c", "tokens", "tokens", "-lf", "json", "--source=-1"] =
      .ok (run (holding "a.c" "x")
        ⟨false, some "tokens", .tokens (.source "-1") (some .json) true⟩) ∧
    (∃ fault, answer (holding "a.c" "x") ["tokens", "a.c", "-v", "-e", "y"] = .error fault) ∧
    answer (holding "a.c" "x") ["-vc=a.toml", "tokens", "--config", "b.toml", "a.c", "--verbose"] =
      .ok (run (holding "a.c" "x") ⟨true, some "b.toml", .tokens (.file "a.c") none false⟩) := by
  have config : Level.Valued none .config := ⟨by decide, rfl⟩
  have verbose : Level.Flag none .verbose := ⟨by decide, rfl, by decide⟩
  have configBehind : Level.Valued (some .tokens) .config := ⟨by decide, rfl⟩
  have verboseBehind : Level.Flag (some .tokens) .verbose := ⟨by decide, rfl, by decide⟩
  have source : Level.Valued (some .tokens) .source := ⟨by decide, rfl⟩
  have format : Level.Valued (some .tokens) .format := ⟨by decide, rfl⟩
  have locations : Level.Flag (some .tokens) .locations := ⟨by decide, rfl, by decide⟩
  refine ⟨?_, ?_, ?_⟩
  · have before : Spelled none [(.config, "tokens")] ["-c", "tokens"] :=
      .cons (.lettersApart (.apart config rfl) (by decide)) .nil
    have behind : Spelled (some .tokens) [(.locations, ""), (.format, "json"), (.source, "-1")]
        ["-lf", "json", "--source=-1"] :=
      .cons (.lettersApart (.more locations rfl (.apart format rfl)) (by decide))
        (.cons (.longEquals "-1" source rfl) .nil)
    refine (options_in_any_order (holding "a.c" "x") ⟨_, _, _, _, before, behind⟩).1
      ⟨false, some "tokens", .source "-1", some .json, true, by decide, by decide⟩ ?_
    refine ⟨by simp, fun slot text => ?_⟩
    cases slot <;> simp [Choice.text?, Format.name, eq_comm]
  · have both : Spelled (some .tokens) [(.file, "a.c"), (.verbose, ""), (.source, "y")]
        ["a.c", "-v", "-e", "y"] :=
      .cons (.file rfl (by decide)) (.cons (.letters (.flag verboseBehind rfl))
        (.cons (.lettersApart (.apart source rfl) (by decide)) .nil))
    exact (options_in_any_order (holding "a.c" "x") ⟨_, _, _, _, .nil, both⟩).2.1 rfl rfl
  · have before : Spelled none [(.verbose, ""), (.config, "a.toml")] ["-vc=a.toml"] :=
      .cons (.letters (.more verbose rfl (.equals "a.toml" config rfl))) .nil
    have behind : Spelled (some .tokens) [(.config, "b.toml"), (.file, "a.c"), (.verbose, "")]
        ["--config", "b.toml", "a.c", "--verbose"] :=
      .cons (.longApart configBehind rfl (by decide))
        (.cons (.file rfl (by decide)) (.cons (.long verboseBehind rfl) .nil))
    refine (options_in_any_order (holding "a.c" "x") ⟨_, _, _, _, before, behind⟩).2.2
      ⟨true, some "a.toml", .standardInput, none, false, by decide, by decide⟩
      ⟨true, some "b.toml", .file "a.c", none, false, by decide, by decide⟩ ?_ ?_
    all_goals
      refine ⟨by simp, fun slot text => ?_⟩
      cases slot <;> simp [Choice.text?, eq_comm]

end Program

end TokenScan
