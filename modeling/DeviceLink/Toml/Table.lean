import DeviceLink.Datum
/-!
# TOML — tables and how keys build them

A table is filled key by key. A dotted key opens the tables on its way, and so
does a header; a table opened on the way may still be given a header of its
own, once, while one that has been given its contents may not be given them
again. `insert?` and `header?` fail where that rule is broken.
-/

namespace DeviceLink

namespace Toml

/-- What a key of a table stands for while the table is being built. -/
inductive Item
  /-- A finished value. -/
  | value (value : Datum)
  /-- A table: opened only on the way to another, opened by a dotted key, and
  its entries. -/
  | table (implicit dotted : Bool) (entries : List (String × Item))
  /-- The tables of an array of them, the last one still being built. -/
  | tables (all : List (List (String × Item)))

/-- A table being built. -/
structure Table where
  /-- It was only opened on the way to another. -/
  implicit : Bool := false
  /-- It was opened by a dotted key. -/
  dotted : Bool := false
  entries : List (String × Item) := []

namespace Table

/-- The item of a key. -/
def find (t : Table) (key : String) : Option Item :=
  (t.entries.find? (·.1 == key)).map (·.2)

/-- Give a key an item: in its place if it has one, else at the end. -/
def put (t : Table) (key : String) (item : Item) : Table :=
  if (t.find key).isSome then
    { t with entries := t.entries.map fun e => if e.1 == key then (key, item) else e }
  else { t with entries := t.entries ++ [(key, item)] }

/-- Take a key away. -/
def erase (t : Table) (key : String) : Table :=
  { t with entries := t.entries.filter (·.1 != key) }

/-- The table as an item. -/
def toItem (t : Table) : Item := .table t.implicit t.dotted t.entries

/-- Change the table at the end of a path, opening the tables on the way. A
`dotted` path may not pass through a table that has its contents already. -/
def update? (dotted : Bool) (change : Table → Option Table) : List String → Table → Option Table
  | [], t => change t
  | key :: path, t =>
    match t.find key with
    | none => do
      let child ← update? dotted change path ⟨true, dotted, []⟩
      return t.put key child.toItem
    | some (.value _) => none
    | some (.table implicit wasDotted entries) =>
      if dotted && !implicit then none
      else do
        let child ← update? dotted change path ⟨implicit, wasDotted, entries⟩
        return t.put key child.toItem
    | some (.tables all) =>
      match all.getLast? with
      | none => none
      | some last => do
        let child ← update? dotted change path ⟨false, false, last⟩
        return t.put key (.tables (all.dropLast ++ [child.entries]))

/-- Give the key at the end of a path a value. The tables a dotted key passes
through are its own, and no key is given a value twice. -/
def insert? (t : Table) (path : List String) (key : String) (value : Datum) : Option Table :=
  t.update? true
    (fun inner =>
      if inner.dotted == path.isEmpty || (inner.find key).isSome then none
      else some (inner.put key (.value value)))
    path

end Table

mutual

/-- The value an item is. -/
def Item.toDatum : Item → Datum
  | .value v => v
  | .table _ _ entries => .map (entriesToData entries)
  | .tables all => .list (tablesToData all)

/-- The entries' values. -/
def entriesToData : List (String × Item) → List (String × Datum)
  | [] => []
  | (key, item) :: rest => (key, item.toDatum) :: entriesToData rest

/-- The values of an array of tables. -/
def tablesToData : List (List (String × Item)) → List Datum
  | [] => []
  | entries :: rest => .map (entriesToData entries) :: tablesToData rest

end

/-- The value a table is. -/
def Table.toDatum (t : Table) : Datum := .map (entriesToData t.entries)

/-! ## Documents -/

/-- A document being read: all tables that are closed, and the open one with
the path of its header. -/
structure Builder where
  /-- The closed tables. -/
  root : Table := {}
  /-- The path of the open table, empty for the document itself. -/
  path : List String := []
  /-- Whether the open table is one more of an array. -/
  repeated : Bool := false
  /-- The open table. -/
  current : Table := {}

namespace Builder

/-- Close the open table: put it where its header says. -/
def close? (b : Builder) : Option Table :=
  match b.path.getLast? with
  | none => some b.current
  | some key =>
    b.root.update? false
      (fun parent =>
        if b.repeated then
          match parent.find key with
          | none => some (parent.put key (.tables [b.current.entries]))
          | some (.tables all) => some (parent.put key (.tables (all ++ [b.current.entries])))
          | some _ => none
        else if (parent.find key).isSome then none
        else some (parent.put key b.current.toItem))
      b.path.dropLast

/-- Open the table of a header. One that was only opened on the way to another
keeps what it holds. -/
def header? (b : Builder) (path : List String) : Option Builder := do
  let root ← b.close?
  let key ← path.getLast?
  -- the tables on the way are opened even before the table itself is closed
  let opened ← root.update? false some path.dropLast
  let parent ← look path.dropLast opened
  match parent.find key with
  | none => return ⟨opened, path, false, {}⟩
  | some (.table true false entries) => do
    let without ← opened.update? false (fun t => some (t.erase key)) path.dropLast
    return ⟨without, path, false, { entries := entries }⟩
  | some _ => none
where
  /-- The table at the end of a path. -/
  look : List String → Table → Option Table
    | [], t => some t
    | key :: path, t =>
      match t.find key with
      | some (.table implicit dotted entries) => look path ⟨implicit, dotted, entries⟩
      | some (.tables all) => all.getLast?.bind fun last => look path ⟨false, false, last⟩
      | _ => none

/-- Open one more table of an array. -/
def repeatedHeader? (b : Builder) (path : List String) : Option Builder := do
  let root ← b.close?
  let key ← path.getLast?
  let opened ← root.update? false
    (fun parent =>
      match parent.find key with
      | none => some (parent.put key (.tables []))
      | some (.tables _) => some parent
      | some _ => none)
    path.dropLast
  return ⟨opened, path, true, {}⟩

/-- Give a key of the open table a value. -/
def insert? (b : Builder) (path : List String) (key : String) (value : Datum) : Option Builder :=
  (b.current.insert? path key value).map fun t => { b with current := t }

end Builder

end Toml

end DeviceLink
