import TokenScan.Toml.Document

/-! No table of a document has a key twice, at any depth. A reader refuses a key that is already
taken, wherever keys are put into a table: by a line, inside an inline table, and by a header. So a
key that is looked up in a table leads to all that the document says under it. -/
namespace TokenScan.Toml

/-- What every step keeps, a whole run keeps. -/
theorem foldlM_keeps {α β : Type} {step : β → α → Option β} {Good : β → Prop} {Fine : α → Prop}
    (keeps : ∀ {state item next}, Good state → Fine item → step state item = some next → Good next)
    {items : List α} {start finish : β} (good : Good start) (fine : ∀ item ∈ items, Fine item)
    (run : items.foldlM step start = some finish) : Good finish := by
  induction items generalizing start with
  | nil =>
    cases run
    exact good
  | cons item items ih =>
    obtain ⟨first, others⟩ := List.forall_mem_cons.mp fine
    rw [List.foldlM_cons] at run
    obtain ⟨next, taken, rest⟩ := Option.bind_eq_some_iff.mp run
    exact ih (keeps good first taken) others rest

theorem mem_of_lookup {α : Type} {entries : List (String × α)} {key : String} {value : α}
    (found : entries.lookup key = some value) : (key, value) ∈ entries := by
  obtain ⟨before, after, rfl, _⟩ := List.lookup_eq_some_iff.mp found
  simp

theorem lookup_cons_of_ne {α : Type} {entries : List (String × α)} {first key : String} {value : α}
    (apart : first ≠ key) : ((first, value) :: entries).lookup key = entries.lookup key := by
  rw [List.lookup_cons, beq_false_of_ne apart.symm]

/-- No key stands twice in the entries. -/
def Distinct {α : Type} (entries : List (String × α)) : Prop := (entries.map Prod.fst).Nodup

namespace Distinct

variable {α : Type} {entries : List (String × α)} {key : String}

theorem nil : Distinct ([] : List (String × α)) := List.nodup_nil

theorem append (distinct : Distinct entries) (fresh : entries.lookup key = none) (value : α) :
    Distinct (entries ++ [(key, value)]) := by
  have apart : key ∉ entries.map Prod.fst := by
    intro member
    obtain ⟨entry, among, rfl⟩ := List.mem_map.mp member
    simpa using List.lookup_eq_none_iff.mp fresh entry among
  rw [Distinct, List.map_append]
  exact List.nodup_append.mpr ⟨distinct, by simp, by
    intro other member last only
    obtain rfl := List.mem_singleton.mp only
    rintro rfl
    exact apart member⟩

theorem of_cons {value : α} (distinct : Distinct ((key, value) :: entries)) :
    entries.lookup key = none ∧ Distinct entries := by
  obtain ⟨fresh, rest⟩ := List.nodup_cons.mp distinct
  refine ⟨List.lookup_eq_none_iff.mpr fun entry member => ?_, rest⟩
  rw [bne_iff_ne]
  rintro rfl
  exact fresh (List.mem_map.mpr ⟨entry, member, rfl⟩)

end Distinct

/-- No table in the value has a key twice. -/
inductive Value.Keyed : Value → Prop where
  | text (value : String) : Keyed (.text value)
  | integer (value : Int) : Keyed (.integer value)
  | float (value : Decimal.Binary64) : Keyed (.float value)
  | boolean (value : Bool) : Keyed (.boolean value)
  | moment (value : Moment) : Keyed (.moment value)
  | array {items : List Value} : (∀ item ∈ items, Keyed item) → Keyed (.array items)
  | table {entries : Table} : Distinct entries → (∀ entry ∈ entries, Keyed entry.2) →
      Keyed (.table entries)
  | elements {tables : List Table} : (∀ table ∈ tables, Distinct table) →
      (∀ table ∈ tables, ∀ entry ∈ table, Keyed entry.2) → Keyed (.elements tables)

/-- The same for a part of a document that is still being read. -/
inductive Node.Keyed : Node → Prop where
  | leaf {value : Value} : value.Keyed → Keyed (.leaf value)
  | table {origin : Origin} {entries : Draft} : Distinct entries →
      (∀ entry ∈ entries, Keyed entry.2) → Keyed (.table origin entries)
  | elements {tables : List Draft} : (∀ table ∈ tables, Distinct table) →
      (∀ table ∈ tables, ∀ entry ∈ table, Keyed entry.2) → Keyed (.elements tables)

structure Draft.Keyed (draft : Draft) : Prop where
  distinct : Distinct draft
  nodes : ∀ entry ∈ draft, entry.2.Keyed

namespace Draft

variable {draft : Draft} {key : String} {node : Node}

theorem keyed_nil : Keyed [] := ⟨Distinct.nil, by simp⟩

theorem Keyed.append (keyed : Keyed draft) (fresh : draft.lookup key = none) (inner : node.Keyed) :
    Keyed (draft ++ [(key, node)]) := by
  refine ⟨keyed.distinct.append fresh node, ?_⟩
  intro entry member
  rcases List.mem_append.mp member with before | last
  · exact keyed.nodes entry before
  · obtain rfl := List.mem_singleton.mp last
    exact inner

theorem Keyed.replace (keyed : Keyed draft) (inner : node.Keyed) : Keyed (draft.replace key node) := by
  have keys : (draft.replace key node).map Prod.fst = draft.map Prod.fst := by
    rw [Draft.replace, List.map_map]
    apply List.map_congr_left
    intro entry _
    by_cases same : entry.1 = key <;> simp [same]
  constructor
  · rw [Distinct, keys]
    exact keyed.distinct
  · intro entry member
    obtain ⟨old, among, rfl⟩ := List.mem_map.mp member
    split
    · exact inner
    · exact keyed.nodes old among

theorem Keyed.erase (keyed : Keyed draft) : Keyed (draft.erase key) := by
  constructor
  · exact keyed.distinct.sublist (List.filter_sublist.map Prod.fst)
  · intro entry member
    exact keyed.nodes entry (List.mem_filter.mp member).1

theorem Keyed.of_lookup (keyed : Keyed draft) (found : draft.lookup key = some node) : node.Keyed :=
  keyed.nodes (key, node) (mem_of_lookup found)

/-- A change that keeps keys apart in the table that a path leads to keeps them apart in all. The
induction is on the path. -/
theorem within_keyed {α : Type} {result : α} {after : Draft} {path : List String} {origin : Origin}
    {dotted : Bool} {change : Origin → Draft → Option (α × Draft)} (Good : α → Prop)
    (keeps : ∀ origin inner result after, Keyed inner →
      change origin inner = some (result, after) → Good result ∧ Keyed after)
    (keyed : Keyed draft) (changed : within dotted change path origin draft = some (result, after)) :
    Good result ∧ Keyed after := by
  induction path generalizing origin draft after with
  | nil => exact keeps origin draft result after keyed changed
  | cons key path ih =>
    unfold within at changed
    split at changed
    case h_1 fresh =>
      obtain ⟨⟨value, inner⟩, deeper, same⟩ := Option.bind_eq_some_iff.mp changed
      cases same
      obtain ⟨good, kept⟩ := ih keyed_nil deeper
      exact ⟨good, keyed.append fresh (.table kept.distinct kept.nodes)⟩
    case h_2 => cases changed
    case h_3 standing inner found =>
      split at changed
      · cases changed
      · obtain ⟨⟨value, inner⟩, deeper, same⟩ := Option.bind_eq_some_iff.mp changed
        cases same
        cases keyed.of_lookup found with
        | table distinct nodes =>
          obtain ⟨good, kept⟩ := ih ⟨distinct, nodes⟩ deeper
          exact ⟨good, keyed.replace (.table kept.distinct kept.nodes)⟩
    case h_4 tables found =>
      split at changed
      · cases changed
      · rename_i last ends
        obtain ⟨⟨value, inner⟩, deeper, same⟩ := Option.bind_eq_some_iff.mp changed
        cases same
        cases keyed.of_lookup found with
        | elements distinct nodes =>
          have among : last ∈ tables := List.mem_of_getLast? ends
          obtain ⟨good, kept⟩ := ih ⟨distinct last among, nodes last among⟩ deeper
          have others : ∀ table ∈ tables.dropLast, table ∈ tables :=
            fun _ member => List.dropLast_subset tables member
          refine ⟨good, keyed.replace (.elements ?_ ?_)⟩
          · exact List.forall_mem_append.mpr ⟨fun table member => distinct table (others table member),
              List.forall_mem_singleton.mpr kept.distinct⟩
          · exact List.forall_mem_append.mpr ⟨fun table member => nodes table (others table member),
              List.forall_mem_singleton.mpr kept.nodes⟩

/-- The same for a change that gives nothing but the table. -/
theorem change_keyed {after : Draft} {path : List String} {dotted : Bool}
    {change : Origin → Draft → Option (Unit × Draft)}
    (keeps : ∀ origin inner result after, Keyed inner →
      change origin inner = some (result, after) → Keyed after)
    (keyed : Keyed draft)
    (changed : Prod.snd <$> within dotted change path .header draft = some after) : Keyed after := by
  obtain ⟨⟨result, draft⟩, made, rfl⟩ := Option.map_eq_some_iff.mp changed
  refine (within_keyed (fun _ => True) ?_ keyed made).2
  intro origin inner result after inside change
  exact ⟨trivial, keeps origin inner result after inside change⟩

theorem Keyed.insert {after : Draft} {path : List String} {value : Value} (keyed : Keyed draft)
    (inner : value.Keyed) (inserted : draft.insert path key value = some after) : Keyed after := by
  refine change_keyed ?_ keyed inserted
  intro origin inside result after kept change
  split at change
  · cases change
  · rename_i free
    cases change
    have fresh : inside.lookup key = none := by
      rw [Bool.or_eq_true, not_or] at free
      exact Option.not_isSome_iff_eq_none.mp free.2
    exact kept.append fresh (.leaf inner)

theorem Keyed.openTable {path : List String} {table rest : Draft} (keyed : Keyed draft)
    (opened : draft.openTable path key = some (table, rest)) : Keyed table ∧ Keyed rest := by
  refine within_keyed Keyed ?_ keyed opened
  intro origin inside result after kept change
  split at change
  · cases change
    exact ⟨keyed_nil, kept⟩
  · rename_i inner found
    cases change
    cases kept.of_lookup found with
    | table distinct nodes => exact ⟨⟨distinct, nodes⟩, kept.erase⟩
  · cases change

theorem Keyed.closeTable {after : Draft} {path : List String} {table : Draft} (keyed : Keyed draft)
    (inner : Keyed table) (closed : draft.closeTable path key table = some after) : Keyed after := by
  refine change_keyed ?_ keyed closed
  intro origin inside result after kept change
  split at change
  · cases change
  · rename_i free
    cases change
    exact kept.append (Option.not_isSome_iff_eq_none.mp free) (.table inner.distinct inner.nodes)

theorem Keyed.openElement {after : Draft} {path : List String} (keyed : Keyed draft)
    (opened : draft.openElement path key = some after) : Keyed after := by
  refine change_keyed ?_ keyed opened
  intro origin inside result after kept change
  split at change
  · rename_i fresh
    cases change
    exact kept.append fresh (.elements (by simp) (by simp))
  · cases change
    exact kept
  · cases change

theorem Keyed.closeElement {after : Draft} {path : List String} {table : Draft} (keyed : Keyed draft)
    (inner : Keyed table) (closed : draft.closeElement path key table = some after) : Keyed after := by
  refine change_keyed ?_ keyed closed
  intro origin inside result after kept change
  split at change
  · rename_i tables found
    cases change
    cases kept.of_lookup found with
    | elements distinct nodes =>
      apply kept.replace
      apply Node.Keyed.elements
      · exact List.forall_mem_append.mpr ⟨distinct, List.forall_mem_singleton.mpr inner.distinct⟩
      · exact List.forall_mem_append.mpr ⟨nodes, List.forall_mem_singleton.mpr inner.nodes⟩
  · cases change

end Draft

theorem Draft.table_eq_map (entries : Draft) :
    Draft.table entries = entries.map fun entry => (entry.1, entry.2.value) := by
  induction entries with
  | nil => rw [Draft.table, List.map_nil]
  | cons entry entries ih => rw [Draft.table, List.map_cons, ih]

theorem Draft.tables_eq_map (tables : List Draft) :
    Draft.tables tables = tables.map Draft.table := by
  induction tables with
  | nil => rw [Draft.tables, List.map_nil]
  | cons table tables ih => rw [Draft.tables, List.map_cons, ih]

theorem Distinct.table {entries : Draft} (distinct : Distinct entries) :
    Distinct (Draft.table entries) := by
  have keys : (Draft.table entries).map Prod.fst = entries.map Prod.fst := by
    rw [Draft.table_eq_map, List.map_map]
    rfl
  rw [Distinct, keys]
  exact distinct

theorem Node.Keyed.value {node : Node} (keyed : node.Keyed) : node.value.Keyed := by
  induction keyed with
  | leaf value =>
    rw [Node.value]
    exact value
  | @table origin entries distinct nodes ih =>
    rw [Node.value]
    refine .table distinct.table ?_
    rw [Draft.table_eq_map]
    exact List.forall_mem_map.mpr ih
  | @elements tables distinct nodes ih =>
    rw [Node.value, Draft.tables_eq_map]
    refine .elements ?_ ?_
    · exact List.forall_mem_map.mpr fun table member => (distinct table member).table
    · refine List.forall_mem_map.mpr fun table member => ?_
      rw [Draft.table_eq_map]
      exact List.forall_mem_map.mpr (ih table member)

/-- A table that is read to its end. -/
structure Table.Keyed (table : Table) : Prop where
  distinct : Distinct table
  values : ∀ entry ∈ table, entry.2.Keyed

theorem Table.Keyed.of_lookup {table entries : Table} {key : String} (keyed : Keyed table)
    (found : table.lookup key = some (.table entries)) : Distinct entries := by
  cases keyed.values (key, .table entries) (mem_of_lookup found) with
  | table distinct => exact distinct

theorem Draft.Keyed.table {draft : Draft} (keyed : draft.Keyed) : Table.Keyed (Draft.table draft) := by
  refine ⟨keyed.distinct.table, ?_⟩
  rw [Draft.table_eq_map]
  exact List.forall_mem_map.mpr fun entry member => (keyed.nodes entry member).value

/-- What the reader takes off a text, if it takes anything, is of this kind. -/
def Reader.Yields {α : Type} (reader : Reader α) (Good : α → Prop) : Prop :=
  ∀ chars value rest, reader chars = some (value, rest) → Good value

namespace Reader

variable {α β : Type} {Good : α → Prop} {Fine : β → Prop}

theorem yields_any (reader : Reader α) : reader.Yields fun _ => True := fun _ _ _ _ => trivial

theorem yields_pure {value : α} (good : Good value) : Yields (pure value : Reader α) Good := by
  intro chars value rest read
  cases read
  exact good

theorem Yields.bind {reader : Reader α} {next : α → Reader β} (first : reader.Yields Good)
    (second : ∀ value, Good value → (next value).Yields Fine) : (reader >>= next).Yields Fine := by
  intro chars value rest read
  obtain ⟨⟨between, behind⟩, taken, more⟩ := Option.bind_eq_some_iff.mp read
  exact second between (first _ _ _ taken) _ _ _ more

/-- Whatever is read first, if nothing of it matters. -/
theorem yields_behind {first : Reader α} {next : α → Reader β}
    (second : ∀ value, (next value).Yields Fine) : (first >>= next).Yields Fine :=
  (yields_any first).bind fun value _ => second value

theorem Yields.map {reader : Reader α} {f : α → β} (first : reader.Yields Good)
    (carried : ∀ value, Good value → Fine (f value)) : (f <$> reader).Yields Fine := by
  intro chars value rest read
  obtain ⟨⟨between, behind⟩, taken, same⟩ := Option.bind_eq_some_iff.mp read
  cases same
  exact carried between (first _ _ _ taken)

theorem Yields.orElse {reader other : Reader α} (first : reader.Yields Good)
    (second : other.Yields Good) : (reader <|> other).Yields Good := by
  intro chars value rest read
  change (reader chars <|> other chars) = some (value, rest) at read
  cases taken : reader chars with
  | none =>
    rw [taken] at read
    exact second _ _ _ read
  | some found =>
    rw [taken] at read
    cases read
    exact first _ _ _ taken

theorem Yields.optional {reader : Reader α} (first : reader.Yields Good) :
    Yields (optional reader) fun found => ∀ value, found = some value → Good value := by
  apply Yields.orElse
  · exact first.map fun value good other same => Option.some.inj same ▸ good
  · exact yields_pure nofun

theorem Yields.many {reader : Reader α} (each : reader.Yields Good) :
    (many reader).Yields fun values => ∀ value ∈ values, Good value := by
  have bounded (bound : List Char) : ∀ chars, ∀ value ∈ (repeatedly reader bound chars).1, Good value := by
    induction bound with
    | nil => simp [repeatedly]
    | cons c bound ih =>
      intro chars
      rw [repeatedly]
      split
      · simp
      · rename_i value rest taken
        exact List.forall_mem_cons.mpr ⟨each _ _ _ taken, ih rest⟩
  intro chars values rest read
  obtain rfl : (repeatedly reader chars chars).1 = values := congrArg Prod.fst (Option.some.inj read)
  exact bounded chars chars

theorem Yields.separated {separator : Reader Unit} {reader : Reader α} (each : reader.Yields Good) :
    (separated separator reader).Yields fun values => ∀ value ∈ values, Good value := by
  refine each.bind fun first good => ?_
  have others : (Reader.many (do separator; reader)).Yields fun values => ∀ value ∈ values, Good value :=
    Yields.many (yields_behind fun _ => each)
  refine others.bind fun more rest => yields_pure ?_
  exact List.forall_mem_cons.mpr ⟨good, rest⟩

theorem yields_ofOption {found : Option α} (good : ∀ value, found = some value → Good value) :
    (ofOption found).Yields Good := by
  cases found with
  | none => exact nofun
  | some value => exact yields_pure (good value rfl)

end Reader

open Reader

theorem yields_scalar : scalar.Yields Value.Keyed := by
  have text : (.text <$> string : Reader Value).Yields Value.Keyed :=
    (yields_any string).map fun value _ => .text value
  have switch : (.boolean <$> boolean : Reader Value).Yields Value.Keyed :=
    (yields_any boolean).map fun value _ => .boolean value
  have date : (.moment <$> moment : Reader Value).Yields Value.Keyed :=
    (yields_any moment).map fun value _ => .moment value
  refine text.orElse (switch.orElse (date.orElse ?_))
  refine yields_behind fun value => ?_
  cases value with
  | integer value => exact yields_pure (.integer value)
  | float value => exact yields_pure (.float value)

variable {item : Reader Value}

theorem yields_array (each : item.Yields Value.Keyed) : (array item).Yields Value.Keyed := by
  have items : (separated (char ',') (do gap; let value ← item; gap; return value)).Yields
      fun values => ∀ value ∈ values, value.Keyed := by
    apply Yields.separated
    exact yields_behind fun _ => each.bind fun value keyed => yields_behind fun _ => yields_pure keyed
  refine yields_behind fun _ => Yields.bind (Yields.optional (items.bind fun values keyed =>
    yields_behind fun _ => yields_pure keyed)) fun found keyed => ?_
  refine yields_behind fun _ => yields_behind fun _ => yields_pure (.array ?_)
  cases found with
  | none => exact List.forall_mem_nil _
  | some values => exact keyed values rfl

theorem yields_keyValue (each : item.Yields Value.Keyed) :
    (keyValue item).Yields fun entry => entry.2.Keyed :=
  yields_behind fun _ => yields_behind fun _ => yields_behind fun _ =>
    each.bind fun _ keyed => yields_pure keyed

theorem yields_inlineTable (each : item.Yields Value.Keyed) :
    (inlineTable item).Yields Value.Keyed := by
  have entries : (separated (char ',') (do let entry ← keyValue item; blanks; return entry)).Yields
      fun entries => ∀ entry ∈ entries, entry.2.Keyed := by
    apply Yields.separated
    exact (yields_keyValue each).bind fun _ keyed => yields_behind fun _ => yields_pure keyed
  refine yields_behind fun _ => (Yields.optional entries).bind fun found keyed => ?_
  refine yields_behind fun _ => yields_behind fun _ => ?_
  refine Yields.bind (yields_ofOption ?_) fun draft (inner : draft.Keyed) =>
    yields_pure (.table inner.table.distinct inner.table.values)
  intro draft inserted
  refine foldlM_keeps (fun kept value => kept.insert value) Draft.keyed_nil ?_ inserted
  cases found with
  | none => exact List.forall_mem_nil _
  | some entries => exact keyed entries rfl

/-- The induction is on the depth, as the reader's is. -/
theorem yields_nested (depth : Nat) : (nested depth).Yields Value.Keyed := by
  induction depth with
  | zero => exact yields_scalar
  | succ depth ih => exact (yields_array ih).orElse ((yields_inlineTable ih).orElse yields_scalar)

def Statement.Keyed : Statement → Prop
  | .keyValue _ _ value => value.Keyed
  | .table _ _ | .element _ _ => True

theorem yields_header : header.Yields Statement.Keyed := by
  apply Yields.orElse
  · exact yields_behind fun _ => yields_behind fun _ => yields_behind fun _ =>
      yields_behind fun _ => yields_pure trivial
  · exact yields_behind fun _ => yields_behind fun _ => yields_behind fun _ =>
      yields_behind fun _ => yields_pure trivial

theorem yields_assignment : assignment.Yields Statement.Keyed :=
  (yields_keyValue (yields_nested _)).bind fun _ keyed => yields_behind fun _ => yields_pure keyed

theorem yields_line : line.Yields fun said => ∀ statement, said = some statement → statement.Keyed := by
  have whole {reader : Reader Statement} (reads : reader.Yields Statement.Keyed) :
      (some <$> reader).Yields fun said => ∀ statement, said = some statement → statement.Keyed :=
    reads.map fun _ keyed _ same => Option.some.inj same ▸ keyed
  refine yields_behind fun _ => yields_behind fun _ => yields_behind fun _ => ?_
  exact Yields.orElse (yields_behind fun _ => yields_pure nofun)
    ((whole yields_header).orElse (whole yields_assignment))

theorem yields_statements :
    statements.Yields fun statements => ∀ statement ∈ statements, statement.Keyed := by
  refine yields_behind fun _ => (Yields.many yields_line).bind fun lines keyed => yields_pure ?_
  intro statement member
  obtain ⟨said, among, same⟩ := List.mem_filterMap.mp member
  exact keyed said among statement same

structure Progress.Keyed (progress : Progress) : Prop where
  root : progress.root.Keyed
  current : progress.current.Keyed

theorem Progress.Keyed.close {progress : Progress} {draft : Draft} (keyed : progress.Keyed)
    (closed : progress.close = some draft) : draft.Keyed := by
  unfold Progress.close at closed
  split at closed
  · cases closed
    exact keyed.current
  · split at closed
    · exact keyed.root.closeElement keyed.current closed
    · exact keyed.root.closeTable keyed.current closed

theorem Progress.Keyed.step {progress after : Progress} {statement : Statement}
    (keyed : progress.Keyed) (said : statement.Keyed) (step : progress.step statement = some after) :
    after.Keyed := by
  cases statement with
  | keyValue path key value =>
    obtain ⟨current, inserted, same⟩ := Option.bind_eq_some_iff.mp step
    cases same
    exact ⟨keyed.root, keyed.current.insert said inserted⟩
  | table path key =>
    obtain ⟨root, closed, opened⟩ := Option.bind_eq_some_iff.mp step
    obtain ⟨⟨table, rest⟩, opens, same⟩ := Option.bind_eq_some_iff.mp opened
    cases same
    obtain ⟨inner, outer⟩ := (keyed.close closed).openTable opens
    exact ⟨outer, inner⟩
  | element path key =>
    obtain ⟨root, closed, opened⟩ := Option.bind_eq_some_iff.mp step
    obtain ⟨rest, opens, same⟩ := Option.bind_eq_some_iff.mp opened
    cases same
    exact ⟨(keyed.close closed).openElement opens, Draft.keyed_nil⟩

/-- No table of a document that can be read has a key twice. -/
theorem read_keyed {document : String} {table : Table} (reads : read document = some table) :
    Table.Keyed table := by
  obtain ⟨statements, said, run⟩ := Option.bind_eq_some_iff.mp reads
  obtain ⟨progress, steps, closing⟩ := Option.bind_eq_some_iff.mp run
  obtain ⟨draft, closed, same⟩ := Option.bind_eq_some_iff.mp closing
  cases same
  have keyed : ∀ statement ∈ statements, statement.Keyed := by
    obtain ⟨⟨found, rest⟩, taken, ends⟩ := Option.bind_eq_some_iff.mp said
    obtain ⟨_, same⟩ := Option.ite_none_right_eq_some.mp ends
    cases same
    exact yields_statements _ _ _ taken
  have start : Progress.Keyed ⟨[], none, []⟩ := ⟨Draft.keyed_nil, Draft.keyed_nil⟩
  have finish : progress.Keyed :=
    foldlM_keeps (fun kept said step => kept.step said step) start keyed steps
  exact (finish.close closed).table

end TokenScan.Toml
