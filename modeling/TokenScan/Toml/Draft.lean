import TokenScan.Toml.Value

/-! Tables while a document is being read. What may still be added to a table depends on how it
came to be: a table with a header of its own is closed to dotted keys, one that dotted keys
made is closed to headers, and one that only stands above a header is open to a header. -/
namespace TokenScan.Toml

inductive Origin where
  /-- Named in a header, or an element of an array of tables. -/
  | header
  /-- Stands above a table that a header names. -/
  | implied
  /-- Stands above a dotted key. -/
  | dotted
  deriving DecidableEq, Repr

inductive Node where
  | leaf (value : Value)
  | table (origin : Origin) (entries : List (String × Node))
  /-- An array of tables; only its last element can grow. -/
  | elements (tables : List (List (String × Node)))

abbrev Draft := List (String × Node)

namespace Draft

def replace (draft : Draft) (key : String) (node : Node) : Draft :=
  draft.map fun entry => if entry.1 == key then (key, node) else entry

def erase (draft : Draft) (key : String) : Draft := draft.filter fun entry => entry.1 != key

/-- Changes the table that a path leads to from a table, and makes the tables on the way that
are missing. Values are never entered; through an array of tables leads its last element. -/
def within {α : Type} (dotted : Bool) (change : Origin → Draft → Option (α × Draft)) :
    List String → Origin → Draft → Option (α × Draft)
  | [], origin, draft => change origin draft
  | key :: path, _, draft =>
    match draft.lookup key with
    | none => do
      let origin := if dotted then Origin.dotted else .implied
      let (result, inner) ← within dotted change path origin []
      return (result, draft ++ [(key, .table origin inner)])
    | some (.leaf _) => none
    | some (.table origin inner) =>
      if dotted && origin == .header then none
      else do
        let (result, inner) ← within dotted change path origin inner
        return (result, draft.replace key (.table origin inner))
    | some (.elements tables) =>
      match tables.getLast? with
      | none => none
      | some last => do
        let (result, last) ← within dotted change path .header last
        return (result, draft.replace key (.elements (tables.dropLast ++ [last])))

def insert (draft : Draft) (path : List String) (key : String) (value : Value) : Option Draft :=
  Prod.snd <$> within true (fun origin inner =>
    if (!path.isEmpty && origin != .dotted) || (inner.lookup key).isSome then none
    else some ((), inner ++ [(key, .leaf value)])) path .header draft

/-- Takes out the table that a header opens: a fresh one, or one that so far was only implied. -/
def openTable (draft : Draft) (path : List String) (key : String) : Option (Draft × Draft) :=
  within false (fun _ parent =>
    match parent.lookup key with
    | none => some ([], parent)
    | some (.table .implied inner) => some (inner, parent.erase key)
    | some _ => none) path .header draft

/-- Puts a table back, behind all else that its parent holds. -/
def closeTable (draft : Draft) (path : List String) (key : String) (table : Draft) : Option Draft :=
  Prod.snd <$> within false (fun _ parent =>
    if (parent.lookup key).isSome then none
    else some ((), parent ++ [(key, .table .header table)])) path .header draft

/-- Makes sure that a header names an array of tables, which may be new. -/
def openElement (draft : Draft) (path : List String) (key : String) : Option Draft :=
  Prod.snd <$> within false (fun _ parent =>
    match parent.lookup key with
    | none => some ((), parent ++ [(key, .elements [])])
    | some (.elements _) => some ((), parent)
    | some _ => none) path .header draft

def closeElement (draft : Draft) (path : List String) (key : String) (table : Draft) : Option Draft :=
  Prod.snd <$> within false (fun _ parent =>
    match parent.lookup key with
    | some (.elements tables) => some ((), parent.replace key (.elements (tables ++ [table])))
    | _ => none) path .header draft

end Draft

mutual
def Node.value : Node → Value
  | .leaf value => value
  | .table _ entries => .table (Draft.table entries)
  | .elements tables => .elements (Draft.tables tables)

def Draft.table : List (String × Node) → Table
  | [] => []
  | (key, node) :: entries => (key, node.value) :: Draft.table entries

def Draft.tables : List (List (String × Node)) → List Table
  | [] => []
  | entries :: others => Draft.table entries :: Draft.tables others
end

end TokenScan.Toml
