import Reckon.CommandLine.Path
import Reckon.Text.Quoted

/-!
# Files

A program is started in a directory and reads files below it.  A path is followed name by
name; a double point goes back to the directory before.  Nothing is known of what lies
outside the directory, so a path that leaves it, or starts at a root, finds only
directories without entries.

Reading fails for the reasons that a file system gives, tested in the order of the names:
a file in the place of a directory, then a name that is too long, then one that is missing.
-/

namespace Reckon

/-- Why a file is not read. -/
inductive FileFault where
  | missing
  | notDirectory
  | isDirectory
  | nameTooLong
  | embeddedNull
  deriving DecidableEq, Repr

namespace FileFault

/-- The words for a fault, with its number where the file system has given one. -/
def words : FileFault → String
  | missing => "[Errno 2] No such file or directory"
  | notDirectory => "[Errno 20] Not a directory"
  | isDirectory => "[Errno 21] Is a directory"
  | nameTooLong => "[Errno 36] File name too long"
  | embeddedNull => "embedded null byte"

/-- The text of a fault at a path. -/
def message (fault : FileFault) (path : Path) : String :=
  match fault with
  | embeddedNull => fault.words
  | _ => s!"{fault.words}: {quoted path.text}"

end FileFault

/-- A file with its bytes, or a directory with its entries. -/
inductive FileTree where
  | file (bytes : List UInt8)
  | directory (entries : List (String × FileTree))
  deriving Inhabited

namespace FileTree

/-- A directory without entries. -/
def empty : FileTree := directory []

/-- The longest name that a directory can hold, in bytes. -/
abbrev longestName : Nat := 255

/-- The longest path that is followed, in bytes. -/
abbrev longestPath : Nat := 4095

/-- The entry with a name. -/
def child? (entries : List (String × FileTree)) (name : String) : Option FileTree :=
  (entries.find? (·.1 == name)).map Prod.snd

/-- The tree with something put at the end of a way, through directories that are made
where they are missing. -/
def insert (item : FileTree) : List String → FileTree → FileTree
  | [], _ => item
  | name :: names, tree =>
    let entries := match tree with
      | directory entries => entries
      | file _ => []
    directory
      ((entries.filter (·.1 != name))
        ++ [(name, insert item names ((child? entries name).getD empty))])

/-- Follows names from a tree inside the directories `outer`, the innermost first. -/
def follow : List FileTree → FileTree → List String → Except FileFault FileTree
  | _, tree, [] => .ok tree
  | outer, tree, name :: names =>
    match tree with
    | file _ => .error .notDirectory
    | directory entries =>
      if name = ".." then
        match outer with
        | parent :: further => follow further parent names
        | [] => follow [] empty names
      else if longestName < name.utf8ByteSize then .error .nameTooLong
      else match child? entries name with
        | some found => follow (tree :: outer) found names
        | none => .error .missing

/-- The bytes of the file at a path. -/
def read (tree : FileTree) (path : Path) : Except FileFault (List UInt8) :=
  if path.text.toList.contains '\x00' then .error .embeddedNull
  else if longestPath < path.text.utf8ByteSize then .error .nameTooLong
  else do
    match ← follow [] (if path.root = "" then tree else empty) path.names with
    | file bytes => .ok bytes
    | directory _ => .error .isDirectory

end FileTree

end Reckon
