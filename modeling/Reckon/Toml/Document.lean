import Reckon.Toml.Namespace
import Reckon.Toml.Scalar

/-!
# Reading a configuration document

A document is a sequence of statements, one to a line: an assignment, a header that opens
a table, or a header that adds a table to an array.  Assignments belong to the table of the
header before them.
-/

namespace Reckon

namespace Toml

namespace Scanner

/-- Adds an entry to an inline table, whose closed paths are kept beside it. -/
def addEntry (table : Table) (closed : Closed) (path : List String) (value : Value) :
    Scanner Table := do
  if closed.isFrozen path then fail (.frozen path)
  else
    let key := path.getLastD ""
    let parent := path.dropLast
    match table.updateAt false some parent with
    | none => fail .overwrite
    | some opened =>
      let enter (inner : Table) := if inner.has key then none else some (inner.put key value)
      match opened.updateAt false enter parent with
      | some done => return done
      | none => fail (.duplicateKey key)

/-- Whether a value is an array or a table. -/
def isContainer : Value → Bool
  | .array _ => true
  | .table _ => true
  | _ => false

/-- Reads the key of an assignment and the sign behind it. -/
def assignedKey : Scanner (List String) := do
  let path ← key
  if ← accept "=" then
    skipBlanks
    return path
  else fail .noEquals

mutual

/-- Reads a value. -/
def value : Nat → Scanner Value
  | 0 => fail .value
  | depth + 1 => do
    if ← looksAt "\"\"\"" then return .text (String.ofList (← lines false))
    else if ← looksAt "\"" then return .text (String.ofList (← quotedLine))
    else if ← looksAt "'''" then return .text (String.ofList (← lines true))
    else if ← looksAt "'" then return .text (String.ofList (← literalLine))
    else if ← accept "true" then return .truth true
    else if ← accept "false" then return .truth false
    else if ← accept "[" then
      skipBetweenItems (← rounds)
      if ← accept "]" then return .array [] else arrayItems depth []
    else if ← accept "\x7b" then
      skipBlanks
      if ← accept "\x7d" then return .table [] else tableEntries depth [] .nothing
    else scalar

/-- Reads the items of an array behind those already read, which stand in reverse. -/
def arrayItems : Nat → List Value → Scanner Value
  | 0, _ => fail .openArray
  | depth + 1, items => do
    let item ← value depth
    skipBetweenItems (← rounds)
    if ← accept "]" then return .array (item :: items).reverse
    else if ← accept "," then
      skipBetweenItems (← rounds)
      if ← accept "]" then return .array (item :: items).reverse
      else arrayItems depth (item :: items)
    else fail .openArray

/-- Reads the entries of an inline table beside those already read. -/
def tableEntries : Nat → Table → Closed → Scanner Value
  | 0, _, _ => fail .openTable
  | depth + 1, table, closed => do
    let path ← assignedKey
    let item ← value depth
    let table ← addEntry table closed path item
    skipBlanks
    if ← accept "\x7d" then return .table table
    else if ← looksAt "," then
      skip 1
      skipBlanks
      tableEntries depth table (if isContainer item then closed.freeze path else closed)
    else fail .openTable

end

end Scanner

/-- A document as far as it has been read: its table, the closed paths, and the path of the
last header. -/
structure Document where
  table : Table
  closed : Closed
  header : List String

namespace Document

open Scanner

/-- Before any statement. -/
def empty : Document := ⟨[], .nothing, []⟩

/-- Reads the rest of a header that opens a table. -/
def openTable (document : Document) : Scanner Document := do
  skipBlanks
  let path ← key
  let closed := document.closed
  if closed.isDeclared path || closed.isFrozen path then fail (.declaredTwice path)
  else match document.table.open? path with
    | none => fail .overwrite
    | some table =>
      if ← accept "]" then return ⟨table, closed.declare path, path⟩ else fail .tableEnd

/-- Reads the rest of a header that adds a table to an array. -/
def appendTable (document : Document) : Scanner Document := do
  skipBlanks
  let path ← key
  let closed := document.closed
  if closed.isFrozen path then fail (.frozen path)
  else match document.table.append? path with
    | none => fail .overwrite
    | some table =>
      if ← accept "]]" then return ⟨table, (closed.release path).declare path, path⟩
      else fail .arrayTableEnd

/-- The beginnings of a path that are neither empty nor the whole path. -/
def properPrefixes (path : List String) : List (List String) :=
  (List.range (path.length - 1)).map fun n => path.take (n + 1)

/-- Checks that an assignment goes through no declared table, and postpones what it goes
through. -/
def throughPaths : List (List String) → Closed → Scanner Closed
  | [], closed => return closed
  | path :: rest, closed =>
    if closed.isDeclared path then fail (.redefined path)
    else throughPaths rest (closed.postpone path)

/-- Reads an assignment. -/
def assign (document : Document) : Scanner Document := do
  let path ← assignedKey
  let item ← value (2 * (← rounds))
  let parent := document.header ++ path.dropLast
  let name := path.getLastD ""
  let closed ← throughPaths ((properPrefixes path).map (document.header ++ ·)) document.closed
  let enter (table : Table) := if table.has name then none else some (table.put name item)
  if closed.isFrozen parent then fail (.frozen parent)
  else match document.table.updateAt true enter parent with
    | none => fail .overwrite
    | some table =>
      let closed := if isContainer item then closed.freeze (document.header ++ path) else closed
      return ⟨table, closed, document.header⟩

/-- Reads one statement that begins with a given character. -/
def statement (document : Document) (first : Char) : Scanner Document := do
  if isKeyChar first || first == '"' || first == '\'' then
    let document ← document.assign
    skipBlanks
    return document
  else if first == '[' then
    let document := { document with closed := document.closed.settle }
    let document ← (do
      if ← accept "[[" then document.appendTable
      else
        skip 1
        document.openTable)
    skipBlanks
    return document
  else if first == '#' then return document
  else fail .statement

/-- Reads the statements behind those already read. -/
def statements : Nat → Document → Scanner Document
  | 0, document => return document
  | rounds + 1, document => do
    skipBlanks
    match ← peek with
    | none => return document
    | some '\n' =>
      skip 1
      statements rounds document
    | some first =>
      let document ← document.statement first
      skipComment
      match ← peek with
      | none => return document
      | some '\n' =>
        skip 1
        statements rounds document
      | some _ => fail .afterStatement

end Document

/-- The text with every carriage return before a line feed left out. -/
def joinBreaks : List Char → List Char
  | [] => []
  | '\r' :: '\n' :: rest => '\n' :: joinBreaks rest
  | c :: rest => c :: joinBreaks rest

/-- The table that a document describes. -/
def Table.ofText (text : List Char) : Except Fault Table := do
  let source := (joinBreaks text).toArray
  let (document, _) ← Document.statements (source.size + 1) .empty source 0
  return document.table

end Toml

end Reckon
