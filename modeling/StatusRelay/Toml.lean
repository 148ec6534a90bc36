/-
# TOML values

The value type of TOML. The entries of a table stand in the order in which they were written, each
name once. A number with a fraction or an exponent keeps its text, and so does a moment.

A document names its tables in two ways: in the header over their entries, and in the names of
entries with points in them. So a table under construction also says how it came to be.

| kind | came to be | entries by header | entries by points |
| --- | --- | --- | --- |
| defined | by its own header | no second time | no |
| implied | on the way to another header | yes | no |
| dotted | by a name with points | no | yes |
-/

import StatusRelay.Json

namespace StatusRelay

/-- A TOML value. -/
inductive Toml where
  | str (s : String)
  | int (n : Int)
  | float (text : String)
  | bool (b : Bool)
  | moment (text : String)
  | arr (items : List Toml)
  | table (entries : List (String × Toml))
  deriving Inhabited

namespace Toml

mutual

/-- The JSON value of the same shape. A moment is an object with a name of its own. -/
def toJson : Toml → Json
  | .str s => .str s
  | .int n => .int n
  | .float text => .decimal text
  | .bool b => .bool b
  | .moment text => .obj [("$__toml_private_datetime", .str text)]
  | .arr items => .arr (itemsToJson items)
  | .table entries => .obj (entriesToJson entries)

/-- The items of an array. -/
def itemsToJson : List Toml → List Json
  | [] => []
  | t :: ts => toJson t :: itemsToJson ts

/-- The entries of a table. -/
def entriesToJson : List (String × Toml) → List (String × Json)
  | [] => []
  | (k, t) :: es => (k, toJson t) :: entriesToJson es

end

/-! ### Documents under construction -/

/-- How a table came to be. -/
inductive Kind where
  | defined | implied | dotted
  deriving DecidableEq, Repr

/-- What a name stands for in a document under construction. -/
inductive Entry where
  | value (v : Toml)
  | table (kind : Kind) (entries : List (String × Entry))
  /-- Tables under one name, each begun by a header in two brackets. -/
  | tables (items : List (List (String × Entry)))
  deriving Inhabited

/-- The entries of a table under construction. -/
abbrev Entries := List (String × Entry)

mutual

/-- The value of an entry. -/
def Entry.toToml : Entry → Toml
  | .value v => v
  | .table _ entries => .table (tomlEntries entries)
  | .tables items => .arr (tomlItems items)

/-- The values of entries. -/
def tomlEntries : List (String × Entry) → List (String × Toml)
  | [] => []
  | (k, e) :: es => (k, e.toToml) :: tomlEntries es

/-- The values of tables under one name. -/
def tomlItems : List (List (String × Entry)) → List Toml
  | [] => []
  | es :: items => .table (tomlEntries es) :: tomlItems items

end

namespace Entries

/-- Replaces what a name stands for. -/
def replace (es : Entries) (name : String) (e : Entry) : Entries :=
  es.map fun x => if x.1 = name then (name, e) else x

/-- Changes the table that a path leads to. Tables that are missing on the way are made. A path of
a name with points cannot lead through a table that was defined by a header; a path of any kind
leads through the last of several tables under one name. -/
def update (byPoints : Bool) (change : Kind → Entries → Option Entries) :
    List String → Kind → Entries → Option Entries
  | [], kind, es => change kind es
  | name :: path, _, es =>
    match es.lookup name with
    | none => do
      let kind : Kind := if byPoints then .dotted else .implied
      let sub ← update byPoints change path kind []
      return es ++ [(name, .table kind sub)]
    | some (.value _) => none
    | some (.table kind sub) =>
      if byPoints ∧ kind = .defined then none
      else do
        let sub ← update byPoints change path kind sub
        return es.replace name (.table kind sub)
    | some (.tables items) =>
      match items.getLast? with
      | none => none
      | some sub => do
        let sub ← update byPoints change path .defined sub
        return es.replace name (.tables (items.dropLast ++ [sub]))

/-- Adds a value under a name with points, given by its parts: the path and the last. -/
def add (path : List String) (name : String) (v : Toml) (es : Entries) : Option Entries :=
  es.update true (fun kind es =>
    if (kind = .dotted) = (path = []) then none
    else if (es.lookup name).isSome then none
    else some (es ++ [(name, .value v)])) path .defined

/-- Begins a table by its header. -/
def define (path : List String) (name : String) (es : Entries) : Option Entries :=
  es.update false (fun _ es =>
    match es.lookup name with
    | none => some (es ++ [(name, .table .defined [])])
    | some (.table .implied sub) => some (es.replace name (.table .defined sub))
    | some _ => none) path .defined

/-- Begins another of several tables under one name by its header. -/
def append (path : List String) (name : String) (es : Entries) : Option Entries :=
  es.update false (fun _ es =>
    match es.lookup name with
    | none => some (es ++ [(name, .tables [[]])])
    | some (.tables items) => some (es.replace name (.tables (items ++ [[]])))
    | some _ => none) path .defined

/-- Adds a value to the table whose header came last, given by its path. -/
def addUnder (header path : List String) (name : String) (v : Toml) (es : Entries) :
    Option Entries :=
  es.update false (fun _ es => es.add path name v) header .defined

end Entries
end Toml
end StatusRelay
