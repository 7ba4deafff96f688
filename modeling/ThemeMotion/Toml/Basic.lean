import ThemeMotion.Keyed

/-!
# TOML data

A document is a table of values, tables and arrays of tables. How a table came about
decides how it may grow: a header or a brace defines a table once, while a table that
only lies on the way to another one may still be defined.
-/

namespace ThemeMotion

/-- How a table came about. -/
inductive TableKind where
  /-- It lies on the way of a header. -/
  | implied
  /-- It lies on the way of a dotted key. -/
  | dotted
  /-- A header names it; the document itself counts as such. -/
  | headed
  /-- It stands between braces. -/
  | braced
deriving DecidableEq, Repr

/-- A tree of TOML data. Numbers, dates and times are only known to be such. -/
inductive Toml where
  | string (content : String)
  | flag (value : Bool)
  | number
  | moment
  | array (items : List Toml)
  | table (kind : TableKind) (entries : List (String × Toml))
  /-- An array of tables under headers of its own, with the entries of the newest. -/
  | tables (earlier : List Toml) (newest : List (String × Toml))

namespace Toml

/-- A table that is being filled. -/
structure Table where
  kind : TableKind
  entries : List (String × Toml)

namespace Table

/-- The table as data. -/
def toToml (table : Table) : Toml := .table table.kind table.entries

/-- The document before anything is read. -/
def root : Table := ⟨.headed, []⟩

/-- The entry of a key. -/
def find? (table : Table) (key : String) : Option Toml := table.entries.lookup key

/-- Puts an entry in the place of the one of that key, or behind all others. -/
def put (table : Table) (key : String) (value : Toml) : Table :=
  { table with entries := Keyed.put key value table.entries }

/-- A way through tables: along a header, or along a dotted key. -/
inductive Way where
  | header
  | dotted
deriving DecidableEq, Repr

/-- The kind of a table that a way brings about. -/
def Way.kind : Way → TableKind
  | .header => .implied
  | .dotted => .dotted

/-- A way may lead through a table of a kind. A dotted key leads only through tables
that no header defines, and nothing leads into braces. -/
def Way.admits : Way → TableKind → Bool
  | _, .braced => false
  | .dotted, .headed => false
  | _, _ => true

/-- Changes the table at the end of a way. Missing tables come about, and of an array
of tables the newest is meant. -/
def alter (way : Way) (change : Table → Option Table) : List String → Table → Option Table
  | [], current => change current
  | key :: path, current =>
    match current.find? key with
    | none => (alter way change path ⟨way.kind, []⟩).map fun inner => current.put key inner.toToml
    | some (.table kind entries) =>
      if way.admits kind then
        (alter way change path ⟨kind, entries⟩).map fun inner => current.put key inner.toToml
      else none
    | some (.tables earlier newest) =>
      (alter way change path ⟨.headed, newest⟩).map fun inner =>
        current.put key (.tables earlier inner.entries)
    | some _ => none

/-- Adds a value under a dotted key. It is new, and a table that a header defines is
not reached by dots. -/
def insert? (table : Table) (path : List String) (key : String) (value : Toml) :
    Option Table :=
  alter .dotted (fun inner =>
    if (inner.kind = .dotted) = path.isEmpty ∨ (inner.find? key).isSome then none
    else some (inner.put key value)) path table

/-- Defines the table of a header, unless it is defined. -/
def define? (table : Table) (path : List String) (key : String) : Option Table :=
  alter .header (fun inner =>
    match inner.find? key with
    | none => some (inner.put key (.table .headed []))
    | some (.table .implied entries) => some (inner.put key (.table .headed entries))
    | some _ => none) path table

/-- Adds a table to the array of a header. -/
def append? (table : Table) (path : List String) (key : String) : Option Table :=
  alter .header (fun inner =>
    match inner.find? key with
    | none => some (inner.put key (.tables [] []))
    | some (.tables earlier newest) =>
      some (inner.put key (.tables (earlier ++ [.table .headed newest]) []))
    | some _ => none) path table

end Table

end Toml

end ThemeMotion
