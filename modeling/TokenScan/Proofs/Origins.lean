import TokenScan.Input
import TokenScan.Proofs.Arguments
import TokenScan.Proofs.Partition

/-! Where the texts of a run come from. What a command line sets is the end of one of its
arguments, a text read from bytes has no ASCII character whose byte is not among them, and lines,
tokens and failures have no character that is not in their source. -/
namespace TokenScan

namespace Arguments

/-- An option's value stands behind its name, in one argument or in the next. -/
def Ends (arguments : List String) (text : String) : Prop :=
  ∃ argument ∈ arguments, text.toList <:+ argument.toList

def Values.From (arguments : List String) (values : Values) : Prop :=
  ∀ entry ∈ values, Ends arguments entry.2

structure Given.From (arguments : List String) (given : Given) : Prop where
  checked : Values.From arguments given.checked
  last : ∀ slot text, given.last = some (slot, some text) → Ends arguments text

def Step.From (arguments : List String) : Step → Prop
  | .next given | .words given => given.From arguments
  | .stop _ => True

structure Invocation.From (arguments : List String) (invocation : Invocation) : Prop where
  config : ∀ path, invocation.config = some path → Ends arguments path
  source : ∀ text format locations, invocation.task = .tokens (.source text) format locations →
    Ends arguments text
  file : ∀ path format locations, invocation.task = .tokens (.file path) format locations →
    Ends arguments path

variable {arguments : List String} {argument : String}

theorem ends_of_suffix (member : argument ∈ arguments) {text : String}
    (suffix : text.toList <:+ argument.toList) : Ends arguments text := ⟨argument, member, suffix⟩

theorem ends_empty (member : argument ∈ arguments) : Ends arguments "" :=
  ends_of_suffix member List.nil_suffix

theorem Given.from_start : Given.start.From arguments := by
  constructor
  · exact List.forall_mem_nil _
  · intro slot text given
    cases given

theorem Values.From.add {values after : Values} {slot : Slot} {text : String}
    (origin : values.From arguments) (ends : Ends arguments text)
    (adds : values.add slot text = .ok after) : after.From arguments := by
  unfold Values.add at adds
  repeat' split at adds
  all_goals try cases adds
  intro entry member
  rcases List.mem_append.mp member with before | new
  · exact origin entry before
  · obtain rfl := List.mem_singleton.mp new
    exact ends

theorem Given.From.settle {given : Given} {values : Values} (origin : given.From arguments)
    (settles : given.settle = .ok values) : values.From arguments := by
  obtain ⟨checked, last⟩ := given
  rcases last with _ | ⟨slot, _ | text⟩
  · obtain rfl := Except.ok.inj settles
    exact origin.checked
  · cases settles
  · exact origin.checked.add (origin.last slot text rfl) settles

theorem Values.From.given {values : Values} (origin : values.From arguments) :
    Given.From arguments ⟨values, none⟩ := by
  refine ⟨origin, ?_⟩
  intro slot text last
  cases last

/-- Each reader passes on what was given, and may add an end of its own argument. -/
theorem readFlag_from {level : Level} {slot : Slot} {given : Given} {step : Step}
    (origin : given.From arguments) (member : argument ∈ arguments)
    (reads : readFlag level slot given = .ok step) : step.From arguments := by
  obtain ⟨values, settles, run⟩ := bind_ok reads
  cases slot
  case help =>
    cases run
    trivial
  case version =>
    cases run
    trivial
  all_goals
    obtain ⟨filled, adds, run⟩ := bind_ok run
    cases run
    exact ((origin.settle settles).add (ends_empty member) adds).given

theorem readValued_from {slot : Slot} {attached : Option String} {given after : Given}
    (origin : given.From arguments) (ends : ∀ text, attached = some text → Ends arguments text)
    (reads : readValued slot attached given = .ok after) : after.From arguments := by
  obtain ⟨values, settles, run⟩ := bind_ok reads
  have settled := origin.settle settles
  cases attached with
  | none =>
    obtain rfl := Except.ok.inj run
    refine ⟨settled, ?_⟩
    intro slot text last
    cases last
  | some text =>
    obtain ⟨filled, adds, run⟩ := bind_ok run
    obtain rfl := Except.ok.inj run
    exact (settled.add (ends text rfl) adds).given

theorem splitAtEquals_suffix {word : List Char} {text : String}
    (attached : (splitAtEquals word).2 = some text) : text.toList <:+ word := by
  have whole : word.dropWhile (· != '=') <:+ word := List.dropWhile_suffix _
  unfold splitAtEquals at attached
  cases behind : word.dropWhile (· != '=') with
  | nil =>
    rw [behind] at attached
    cases attached
  | cons c value =>
    rw [behind] at attached whole
    obtain rfl := Option.some.inj attached
    rw [String.toList_ofList]
    exact (List.suffix_cons c value).trans whole

theorem attachedValue_suffix {letters : List Char} {text : String}
    (attached : attachedValue letters = some text) : text.toList <:+ letters := by
  unfold attachedValue at attached
  split at attached
  · cases attached
  · obtain rfl := Option.some.inj attached
    rw [String.toList_ofList]
    exact List.suffix_cons _ _
  · obtain rfl := Option.some.inj attached
    exact ⟨[], String.toList_ofList⟩

theorem readLong_from {level : Level} {word : List Char} {given : Given} {step : Step}
    (origin : given.From arguments) (member : argument ∈ arguments) (suffix : word <:+ argument.toList)
    (reads : readLong level word given = .ok step) : step.From arguments := by
  unfold readLong at reads
  simp only at reads
  split at reads
  · cases reads
  split at reads
  · obtain ⟨next, run, rfl⟩ := map_ok reads
    refine readValued_from origin ?_ run
    intro text attached
    exact ends_of_suffix member ((splitAtEquals_suffix attached).trans suffix)
  split at reads
  · cases reads
  · exact readFlag_from origin member reads

/-- Letter by letter; what is left of the word stays an end of it. -/
theorem readShort_from {level : Level} {letters : List Char} {given : Given} {step : Step}
    (origin : given.From arguments) (member : argument ∈ arguments)
    (suffix : letters <:+ argument.toList) (reads : readShort level letters given = .ok step) :
    step.From arguments := by
  induction letters generalizing given with
  | nil =>
    cases reads
    exact origin
  | cons letter letters ih =>
    have others : letters <:+ argument.toList := (List.suffix_cons letter letters).trans suffix
    unfold readShort at reads
    split at reads
    · cases reads
    split at reads
    · obtain ⟨next, run, rfl⟩ := map_ok reads
      refine readValued_from origin ?_ run
      intro text attached
      exact ends_of_suffix member ((attachedValue_suffix attached).trans others)
    · obtain ⟨middle, run, rest⟩ := bind_ok reads
      have passed := readFlag_from origin member run
      cases middle with
      | next given => exact ih passed others rest
      | words given =>
        cases rest
        exact passed
      | stop request =>
        cases rest
        trivial

/-- What is left of an argument without its dashes. -/
def Shape.chars : Shape → List Char
  | .long word | .short word => word
  | .endOfOptions | .plain => []

theorem Shape.chars_suffix (argument : String) : (Shape.of argument).chars <:+ argument.toList := by
  unfold Shape.of
  split
  · exact List.nil_suffix
  · rename_i word chars
    rw [chars]
    exact ⟨['-', '-'], rfl⟩
  · rename_i letter letters chars
    rw [chars]
    exact ⟨['-'], rfl⟩
  · exact List.nil_suffix

theorem readWord_from {level : Level} {given after : Given} (origin : given.From arguments)
    (member : argument ∈ arguments) (reads : readWord level argument given = .ok after) :
    after.From arguments := by
  unfold readWord at reads
  split at reads
  · cases reads
  · cases reads
  split at reads
  · cases reads
  · obtain ⟨values, settles, run⟩ := bind_ok reads
    obtain rfl := Except.ok.inj run
    refine ⟨origin.settle settles, ?_⟩
    rintro slot text ⟨⟩
    exact ends_of_suffix member List.suffix_rfl

theorem readArgument_from {level : Level} {given : Given} {step : Step}
    (origin : given.From arguments) (member : argument ∈ arguments)
    (reads : readArgument level argument given = .ok step) : step.From arguments := by
  have suffix := Shape.chars_suffix argument
  unfold readArgument at reads
  cases shape : Shape.of argument with
  | endOfOptions =>
    simp only [shape] at reads
    split at reads
    · cases reads
    · cases reads
      exact origin
  | long word =>
    simp only [shape] at reads suffix
    exact readLong_from origin member suffix reads
  | short letters =>
    simp only [shape] at reads suffix
    exact readShort_from origin member suffix reads
  | plain =>
    simp only [shape] at reads
    split at reads
    · cases reads
      refine ⟨origin.checked, ?_⟩
      rintro slot text ⟨⟩
      exact ends_of_suffix member List.suffix_rfl
    · obtain ⟨next, run, rfl⟩ := map_ok reads
      exact readWord_from origin member run

theorem readWords_from {level : Level} {words : List String} {given after : Given}
    (origin : given.From arguments) (members : ∀ word ∈ words, word ∈ arguments)
    (reads : readWords level words given = .ok after) : after.From arguments := by
  induction words generalizing given with
  | nil =>
    cases reads
    exact origin
  | cons word words ih =>
    obtain ⟨middle, run, others⟩ := bind_ok reads
    have next := readWord_from origin (members word List.mem_cons_self) run
    exact ih next (fun other member => members other (List.mem_cons_of_mem _ member)) others

theorem readCommand_from {command : Command} {rest : List String} {given : Given} {values : Values}
    (origin : given.From arguments) (members : ∀ argument ∈ rest, argument ∈ arguments)
    (reads : readCommand command rest given = .ok (.inr values)) : values.From arguments := by
  induction rest generalizing given with
  | nil =>
    obtain ⟨settled, settles, same⟩ := map_ok reads
    cases same
    exact origin.settle settles
  | cons argument rest ih =>
    have later : ∀ other ∈ rest, other ∈ arguments :=
      fun other member => members other (List.mem_cons_of_mem _ member)
    obtain ⟨step, run, others⟩ := bind_ok reads
    have passed := readArgument_from origin (members argument List.mem_cons_self) run
    cases step with
    | next middle => exact ih passed later others
    | words middle =>
      obtain ⟨last, words, others⟩ := bind_ok others
      obtain ⟨settled, settles, same⟩ := map_ok others
      cases same
      exact (readWords_from passed later words).settle settles
    | stop request => cases others

theorem Values.From.get? {values : Values} (origin : values.From arguments) {slot : Slot}
    {text : String} (found : values.get? slot = some text) : Ends arguments text := by
  induction values with
  | nil => cases found
  | cons entry values ih =>
    rw [Values.get?, List.lookup_cons] at found
    split at found
    · obtain rfl := Option.some.inj found
      exact origin entry List.mem_cons_self
    · exact ih (fun other member => origin other (List.mem_cons_of_mem _ member)) found

/-- The source and the file of a task are values given for it. -/
theorem Command.task_from {command : Command} {values : Values} {task : Task}
    (origin : values.From arguments) (works : command.task values = .ok task) :
    (∀ text format locations, task = .tokens (.source text) format locations → Ends arguments text) ∧
    ∀ path format locations, task = .tokens (.file path) format locations → Ends arguments path := by
  cases command with
  | session =>
    cases works
    exact ⟨by simp, by simp⟩
  | tokens =>
    obtain ⟨supply, supplied, run⟩ := bind_ok works
    obtain rfl := Except.ok.inj run
    unfold Values.supply at supplied
    split at supplied
    · cases supplied
    · rename_i text found _
      obtain rfl := Except.ok.inj supplied
      refine ⟨?_, by simp⟩
      rintro _ _ _ ⟨⟩
      exact origin.get? found
    · rename_i path _ found
      obtain rfl := Except.ok.inj supplied
      refine ⟨by simp, ?_⟩
      rintro _ _ _ ⟨⟩
      exact origin.get? found
    · obtain rfl := Except.ok.inj supplied
      exact ⟨by simp, by simp⟩

theorem readProgram_from {rest : List String} {given : Given} {invocation : Invocation}
    (origin : given.From arguments) (members : ∀ argument ∈ rest, argument ∈ arguments)
    (reads : readProgram rest given = .ok (.run invocation)) : invocation.From arguments := by
  induction rest generalizing given with
  | nil => cases reads
  | cons argument rest ih =>
    have later : ∀ other ∈ rest, other ∈ arguments :=
      fun other member => members other (List.mem_cons_of_mem _ member)
    rw [readProgram] at reads
    split at reads
    · rename_i command _
      obtain ⟨result, inner, run⟩ := bind_ok reads
      cases result with
      | inl request =>
        cases run
        exact absurd rfl (readCommand_stop inner invocation)
      | inr after =>
        obtain ⟨task, work, run⟩ := bind_ok run
        obtain ⟨before, settles, run⟩ := bind_ok run
        cases run
        have inside := readCommand_from Given.from_start later inner
        obtain ⟨source, file⟩ := Command.task_from inside work
        refine ⟨?_, source, file⟩
        intro path config
        simp only [invocation, Option.orElse_eq_orElse, Option.orElse_eq_or, Option.or_eq_some_iff] at config
        rcases config with found | ⟨_, found⟩
        · exact inside.get? found
        · exact (origin.settle settles).get? found
    · split at reads
      · exact absurd rfl (helpRequest_stop reads invocation)
      · obtain ⟨step, run, others⟩ := bind_ok reads
        have passed := readArgument_from origin (members argument List.mem_cons_self) run
        cases step with
        | next middle => exact ih passed later others
        | words middle => cases others
        | stop request =>
          cases others
          exact absurd rfl (readArgument_stop run invocation)

/-- A command line says nothing that does not stand in its arguments. -/
theorem read_from {invocation : Invocation} (reads : read arguments = .ok (.run invocation)) :
    invocation.From arguments :=
  readProgram_from Given.from_start (fun _ member => member) reads

end Arguments

/-- UTF-8 has one byte for an ASCII character, the same everywhere. -/
theorem Input.byte_of_mem {bytes : ByteArray} {text : String} (decodes : decode bytes = .ok text)
    {c : Char} (ascii : c.toNat < 0x80) (member : c ∈ text.toList) :
    UInt8.ofNat c.toNat ∈ bytes.data := by
  unfold decode at decodes
  split at decodes
  case h_2 => cases decodes
  rename_i found decoded
  obtain rfl := Except.ok.inj decodes
  unfold String.fromUTF8? at decoded
  split at decoded
  case isFalse => cases decoded
  rename_i valid
  have encoded : found.toByteArray = bytes := by
    rw [← Option.some.inj decoded]
    rfl
  have single : String.utf8EncodeChar c = [UInt8.ofNat c.toNat] :=
    if_pos (Nat.le_of_lt_succ ascii)
  rw [← encoded, ← String.ofList_toList (s := found), String.toByteArray_ofList, List.utf8Encode,
    List.data_toByteArray, List.mem_toArray, List.mem_flatMap]
  exact ⟨c, member, by rw [single]; exact List.mem_singleton_self _⟩

/-- The reversed list holds what has been read so far. -/
theorem byte_of_mem_loop {bytes : ByteArray} {byte : UInt8} {i : Nat} {passed : List UInt8}
    (member : byte ∈ ByteArray.toList.loop bytes i passed) : byte ∈ passed ∨ byte ∈ bytes.data := by
  induction left : bytes.size - i generalizing i passed with
  | zero =>
    rw [ByteArray.toList.loop, if_neg (by omega), List.mem_reverse] at member
    exact .inl member
  | succ left ih =>
    have within : i < bytes.size := by omega
    rw [ByteArray.toList.loop, if_pos within] at member
    rcases ih member (by omega) with passing | inside
    · rcases List.mem_cons.mp passing with rfl | before
      · refine .inr ?_
        rw [ByteArray.get!, getElem!_pos bytes.data i within]
        exact Array.getElem_mem _
      · exact .inl before
    · exact .inr inside

theorem Input.byteLines_mem {bytes line : List UInt8} {byte : UInt8} (member : line ∈ byteLines bytes)
    (inside : byte ∈ line) : byte ∈ bytes := by
  induction bytes generalizing line with
  | nil => cases member
  | cons first rest ih =>
    rw [byteLines] at member
    by_cases feed : first = 10
    · rw [if_pos feed] at member
      rcases List.mem_cons.mp member with rfl | later
      · exact List.mem_cons.mpr (.inl (List.mem_singleton.mp inside))
      · exact List.mem_cons_of_mem _ (ih later inside)
    rw [if_neg feed] at member
    cases lines : byteLines rest with
    | nil =>
      rw [lines] at member
      obtain rfl := List.mem_singleton.mp member
      exact List.mem_cons.mpr (.inl (List.mem_singleton.mp inside))
    | cons next more =>
      rw [lines] at member
      rcases List.mem_cons.mp member with rfl | later
      · rcases List.mem_cons.mp inside with rfl | within
        · exact List.mem_cons_self
        · exact List.mem_cons_of_mem _ (ih (lines ▸ List.mem_cons_self) within)
      · exact List.mem_cons_of_mem _ (ih (lines ▸ List.mem_cons_of_mem _ later) inside)

/-- Of bytes that are not all text, each line is decoded alone. -/
theorem Input.byte_of_mem_readable {bytes : ByteArray} {c : Char} (ascii : c.toNat < 0x80)
    (member : c ∈ (readableText bytes).toList) : UInt8.ofNat c.toNat ∈ bytes.data := by
  simp only [readableText, String.toList_join, List.mem_flatMap, List.mem_filterMap, id] at member
  obtain ⟨text, ⟨_, decoded, rfl⟩, inside⟩ := member
  obtain ⟨line, cut, decodes⟩ := List.mem_map.mp ((List.takeWhile_sublist _).subset decoded)
  have readable : decode ⟨line.toArray⟩ = .ok text := by
    rw [decode, decodes]
  have byte := byte_of_mem readable ascii inside
  rcases byte_of_mem_loop (byteLines_mem cut (List.mem_toArray.mp byte)) with none | there
  · cases none
  · exact there

theorem Text.mem_of_mem_lines {chars line : List Char} {c : Char} (member : line ∈ lines chars)
    (inside : c ∈ line) : c ∈ chars := by
  fun_induction lines chars generalizing line with
  | case1 => cases member
  | case2 rest ih | case3 rest ih =>
    rcases List.mem_cons.mp member with rfl | later
    · cases inside
    · have := ih later inside
      simp [this]
  | case4 first rest _ _ empty ih =>
    obtain rfl := List.mem_singleton.mp member
    obtain rfl := List.mem_singleton.mp inside
    exact List.mem_cons_self
  | case5 first rest _ _ line more found ih =>
    rcases List.mem_cons.mp member with rfl | later
    · rcases List.mem_cons.mp inside with rfl | within
      · exact List.mem_cons_self
      · exact List.mem_cons_of_mem _ (ih (found ▸ List.mem_cons_self) within)
    · exact List.mem_cons_of_mem _ (ih (found ▸ List.mem_cons_of_mem _ later) inside)

theorem Text.mem_of_mem_trim {text : String} {c : Char} (member : c ∈ (trim text).toList) :
    c ∈ text.toList := by
  rw [trim, String.toList_ofList, List.mem_reverse] at member
  have front := List.mem_reverse.mp ((List.dropWhile_sublist _).subset member)
  exact (List.dropWhile_sublist _).subset front

theorem Input.byte_of_mem_sessionLines {bytes : ByteArray} {line : String} {c : Char}
    (member : line ∈ (sessionLines bytes).1) (ascii : c.toNat < 0x80) (inside : c ∈ line.toList) :
    UInt8.ofNat c.toNat ∈ bytes.data := by
  unfold sessionLines at member
  simp only at member
  split at member
  · rename_i text decodes
    obtain ⟨chars, cut, rfl⟩ := List.mem_map.mp member
    rw [String.toList_ofList] at inside
    exact byte_of_mem decodes ascii (Text.mem_of_mem_lines cut inside)
  · obtain ⟨chars, cut, rfl⟩ := List.mem_map.mp member
    rw [String.toList_ofList] at inside
    exact byte_of_mem_readable ascii (Text.mem_of_mem_lines cut inside)

/-- A string begins and ends inside its quotes. -/
theorem Lexeme.mem_written {lexeme : Lexeme} {c : Char} (member : c ∈ lexeme.text.toList) :
    c ∈ lexeme.written := by
  rw [Lexeme.written_eq]
  exact List.mem_append_right _ (List.mem_append_left _ member)

theorem mem_of_mem_token {source : String} {token : Token} (scanned : token ∈ (scan source).tokens)
    {c : Char} (member : c ∈ token.text.toList) : c ∈ source.toList := by
  obtain ⟨before, behind, parts, _⟩ := (scan_scans source).placed scanned
  rw [parts]
  exact List.mem_append_right _ (List.mem_append_left _ (Lexeme.mem_written member))

theorem Scans.mem_of_unexpected {start : Location} {chars : List Char} {tokens : List Token}
    {failure : Option Failure} (scans : Scans start chars tokens failure) {place : Location} {c : Char}
    (fails : failure = some ⟨place, .unexpectedCharacter c⟩) : c ∈ chars := by
  induction scans with
  | blank => cases fails
  | token _ _ _ _ ih => exact List.mem_append_right _ (List.mem_append_right _ (ih fails))
  | unexpected =>
    cases fails
    exact List.mem_append_right _ List.mem_cons_self
  | unterminated => cases fails

end TokenScan
