import SpirvMetal.Store.Assoc

/-!
Access to files, and a directory held in memory that gives it.

A path is relative to the directory. Folders exist as far as files are in them, and no path leads
out of the directory.
-/

namespace SpirvMetal.Command

structure FileAccess (m : Type → Type) where
  read : String → m (Option ByteArray)
  write : String → ByteArray → m Bool

structure Directory where
  files : Assoc (List String) ByteArray := ∅

namespace Directory

def isFolder (directory : Directory) (place : List String) : Bool :=
  place.isEmpty ||
    directory.files.keys.any fun file => place.isPrefixOf file && place.length < file.length

def enter (directory : Directory) (place : List String) (name : String) : Option (List String) :=
  if !directory.isFolder place then none
  else
    match name with
    | "" | "." => some place
    | ".." => if place.isEmpty then none else some place.dropLast
    | name => some (place ++ [name])

def locate (directory : Directory) (path : String) : Option (List String) :=
  match path.splitOn "/" with
  | "" :: _ => none
  | names => names.foldlM directory.enter []

def read? (directory : Directory) (path : String) : Option ByteArray :=
  (directory.locate path).bind directory.files.find?

def write? (directory : Directory) (path : String) (content : ByteArray) : Option Directory :=
  match directory.locate path with
  | some place =>
    if directory.isFolder place then none
    else some { files := directory.files.insert place content }
  | none => none

def access : FileAccess (StateM Directory) where
  read path := do return (← get).read? path
  write path content := do
    match (← get).write? path content with
    | some directory =>
      set directory
      return true
    | none => return false

end Directory

end SpirvMetal.Command
