/-!
# Files

What stands at the paths that a run looks at, as far as reading and writing text depends on it. The faults are those
of opening what stands there. Left out are paths that may not be read or written for want of permission, and reads and
writes that fail half-way, as on a disk that is full: here a file that can be opened is read or written as a whole.
-/

namespace VaultUsage

/-- What stands at a path. A file can be made where it is `vacant`, but not where the folder for it is
`missing` or where its path is `blocked`, as it leads through a file. A path that ends in a slash is
`notFolder` where no folder stands, with a file in its place or with nothing there; and one is `overlong` that
is longer than paths can be or has a longer name in it than files can have. -/
inductive Entry where
  | file (content : String)
  | binary
  | folder
  | vacant
  | missing
  | blocked
  | notFolder (isFile : Bool)
  | overlong
  deriving DecidableEq, Repr

inductive Entry.Fault where
  | notFound
  | notFolder
  | isFolder
  | notText
  | tooLong
  deriving DecidableEq, Repr

namespace Entry

def Fault.message : Fault → String
  | .notFound => "No such file or directory (os error 2)"
  | .notFolder => "Not a directory (os error 20)"
  | .isFolder => "Is a directory (os error 21)"
  | .notText => "stream did not contain valid UTF-8"
  | .tooLong => "File name too long (os error 36)"

def isThere : Entry → Bool
  | file _ => true
  | binary => true
  | folder => true
  | _ => false

def read : Entry → Except Fault String
  | file content => .ok content
  | binary => .error .notText
  | folder => .error .isFolder
  | vacant => .error .notFound
  | missing => .error .notFound
  | blocked => .error .notFolder
  | notFolder isFile => .error (if isFile then .notFolder else .notFound)
  | overlong => .error .tooLong

def writeFault? : Entry → Option Fault
  | file _ => none
  | binary => none
  | vacant => none
  | folder => some .isFolder
  | missing => some .notFound
  | blocked => some .notFolder
  | notFolder _ => some .isFolder
  | overlong => some .tooLong

end Entry

abbrev Files := String → Entry

/-! ## Folders -/

/-- The files in a folder and the folders below it, by their path there. -/
abbrev Folder := List (List String × String)

/-- A folder that a path leads through: one at or below the folder that paths start from, one that holds it,
or one that goes by its path from the root. -/
inductive Place where
  | inside (path : List String)
  | above
  | system (path : List String)
  deriving DecidableEq, Repr

def Place.up : Place → Place
  | inside [] => above
  | inside path => inside path.dropLast
  | above => above
  | system path => system path.dropLast

inductive Named where
  | folder (place : Place)
  | file (content : String)
  | nothing
  deriving DecidableEq, Repr

namespace Folder

def ofList (files : List (String × String)) : Folder := files.map fun f => (f.1.splitOn "/", f.2)

def hasFolder (f : Folder) (path : List String) : Bool := f.any fun e => path.isPrefixOf e.1 && path != e.1

/-- Folders that stand in the root of any system. -/
def systemFolders : List String := ["bin", "dev", "etc", "home", "proc", "root", "tmp", "usr", "var"]

/-- What has the name `name` in the folder `place`. Of what is outside of `f` only what any system has is
known. -/
def find (f : Folder) (place : Place) (name : String) : Named :=
  match place with
  | .inside path =>
    if f.hasFolder (path ++ [name]) then .folder (.inside (path ++ [name]))
    else
      match f.lookup (path ++ [name]) with
      | some content => .file content
      | none => .nothing
  | .above => .nothing
  | .system [] => if systemFolders.contains name then .folder (.system [name]) else .nothing
  | .system path => if path = ["dev"] ∧ name = "null" then .file "" else .nothing

def follow (f : Folder) (place : Place) (rest : List String) : Entry :=
  match rest with
  | [] => .folder
  | step :: rest =>
    if step = "" ∨ step = "." then follow f place rest
    else if step = ".." then follow f place.up rest
    else if 255 < step.utf8ByteSize then .overlong
    else
      match f.find place step with
      | .folder place => follow f place rest
      | .file content =>
        if rest.isEmpty then .file content else if rest.all (· == "") then .notFolder true else .blocked
      | .nothing => if rest.isEmpty then .vacant else if rest.all (· == "") then .notFolder false else .missing

def files (f : Folder) : Files := fun path =>
  if 4095 < path.utf8ByteSize then .overlong
  else
    match path.splitOn "/" with
    | [""] => .missing
    | "" :: steps => f.follow (.system []) steps
    | steps => f.follow (.inside []) steps

end Folder

end VaultUsage
