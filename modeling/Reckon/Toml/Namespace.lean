import Reckon.Toml.Fault

/-!
# Namespaces

A configuration document fills one table by statements that name their place by a path of
keys.  This module says what a path does to the table and which paths may still be used.

## Paths through tables

A path goes through tables, which are made where they are missing; at an array it goes on
in the last item, if that is a table.  It cannot go through any other value.

## What is closed

A table declared by a header may not be declared again, and neither may a table that a
dotted key has gone through, from the next header on.  An array or a table that was written
as a value is closed for good, with everything below it.
-/

namespace Reckon

namespace Toml

/-- Changes the table at the end of a path.  The flag says whether the path may go through
arrays.  Without a result, a value is in the way. -/
def Table.updateAt (throughArrays : Bool) (change : Table → Option Table) :
    List String → Table → Option Table
  | [], table => change table
  | key :: path, table =>
    match table.get? key with
    | none => do
      let inner ← updateAt throughArrays change path []
      some (table.put key (.table inner))
    | some (.table inner) => do
      let inner ← updateAt throughArrays change path inner
      some (table.put key (.table inner))
    | some (.array items) =>
      match throughArrays, items.getLast? with
      | true, some (.table inner) => do
        let inner ← updateAt throughArrays change path inner
        some (table.put key (.array (items.dropLast ++ [.table inner])))
      | _, _ => none
    | some _ => none

/-- Makes the tables on a path. -/
def Table.open? (table : Table) (path : List String) : Option Table :=
  table.updateAt true some path

/-- Adds an empty table to the array at the end of a path, or makes that array. -/
def Table.append? (table : Table) (path : List String) : Option Table :=
  let key := path.getLastD ""
  table.updateAt true
    (fun parent => match parent.get? key with
      | none => some (parent.put key (.array [.table []]))
      | some (.array items) => some (parent.put key (.array (items ++ [.table []])))
      | some _ => none)
    path.dropLast

/-- Which paths are closed.  The pending ones count as declared from the next header on. -/
structure Closed where
  declared : List (List String)
  frozen : List (List String)
  pending : List (List String)

namespace Closed

/-- At the beginning nothing is closed. -/
def nothing : Closed := ⟨[], [], []⟩

/-- Whether a path itself has been declared. -/
def isDeclared (closed : Closed) (path : List String) : Bool := closed.declared.contains path

/-- Whether a path lies in a value that is closed for good. -/
def isFrozen (closed : Closed) (path : List String) : Bool :=
  closed.frozen.any fun root => root.isPrefixOf path

/-- Declares a path. -/
def declare (closed : Closed) (path : List String) : Closed :=
  { closed with declared := path :: closed.declared }

/-- Closes a path for good. -/
def freeze (closed : Closed) (path : List String) : Closed :=
  { closed with frozen := path :: closed.frozen }

/-- Declares a path from the next header on. -/
def postpone (closed : Closed) (path : List String) : Closed :=
  { closed with pending := path :: closed.pending }

/-- Declares what is pending. -/
def settle (closed : Closed) : Closed :=
  { closed with declared := closed.pending ++ closed.declared, pending := [] }

/-- Opens a path and everything below it. -/
def release (closed : Closed) (path : List String) : Closed :=
  { closed with
    declared := closed.declared.filter fun other => !path.isPrefixOf other
    frozen := closed.frozen.filter fun other => !path.isPrefixOf other }

end Closed

end Toml

end Reckon
