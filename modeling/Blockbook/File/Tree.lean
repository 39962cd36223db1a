import Blockbook.File.Basic
import Blockbook.Span

/-!
# A tree of files in memory

Files and directories below a working directory, looked up the way a file system does it: every
step but the last has to be a directory that exists, `..` leads up from it, and nothing lies outside
but the directories that lead to the root.
-/

namespace Blockbook

/-- An entry of the tree. -/
inductive FileEntry where
  | directory
  | text (content : Text)
  | bytes (content : ByteArray)

/-- The entries of a tree by the steps that lead to them from the working directory. Directories
that lead to an entry need no entry of their own. -/
structure FileTree where
  entries : List (List Text × FileEntry)

namespace FileTree

/-- The steps of a path; empty parts and single dots are none. -/
def steps (path : Text) : List Text :=
  (Text.splitOn '/' path).filter fun part => part ≠ [] && part ≠ ['.']

/-- A tree from paths below the working directory. -/
def ofList (files : List (Text × FileEntry)) : FileTree :=
  ⟨files.map fun (path, entry) => (steps path, entry)⟩

/-- What lies at a sequence of steps. -/
def find? (tree : FileTree) (place : List Text) : Option FileEntry :=
  match tree.entries.find? (·.1 = place) with
  | some (_, entry) => some entry
  | none =>
    if place = [] || tree.entries.any (fun (p, _) => place.isPrefixOf p) then some .directory
    else none

/-- Where a walk through the tree stands: inside it, or among the directories above it. -/
inductive Place where
  | inside (place : List Text)
  | outside

/-- One step from a place. -/
def step (tree : FileTree) (place : Place) (part : Text) : Except ReadError Place :=
  match place with
  | .outside => if part = "..".toList then .ok .outside else .error .notFound
  | .inside place =>
    match tree.find? place with
    | none => .error .notFound
    | some .directory =>
      if part = "..".toList then
        .ok (if place = [] then .outside else .inside place.dropLast)
      else if 255 < part.byteLength then .error .nameTooLong
      else
        match tree.find? (place ++ [part]) with
        | some _ => .ok (.inside (place ++ [part]))
        | none => .error .notFound
    | some _ => .error .notDirectory

/-- Whether a path asks for a directory: it ends with a slash or a single dot. -/
def asksForDirectory (path : Text) : Bool :=
  match (Text.splitOn '/' path).getLast? with
  | some last => last = [] || last = ['.']
  | none => false

/-- Reads the file at a path as text. -/
def read (tree : FileTree) (path : Text) : Except ReadError Text :=
  if path.any (· = '\x00') then .error .nulInPath
  else if path = [] then .error .notFound
  else if 4096 ≤ path.byteLength then .error .nameTooLong
  else
    let start : Place := if path.head? = some '/' then .outside else .inside []
    match (steps path).foldlM tree.step start with
    | .error e => .error e
    | .ok .outside => .error .isDirectory
    | .ok (.inside place) =>
      match tree.find? place with
      | none => .error .notFound
      | some .directory => .error .isDirectory
      | some (.text content) =>
        if asksForDirectory path then .error .notDirectory else .ok content
      | some (.bytes content) =>
        if asksForDirectory path then .error .notDirectory
        else
          match String.fromUTF8? content with
          | some s => .ok s.toList
          | none => .error .invalidUtf8

end FileTree

end Blockbook
