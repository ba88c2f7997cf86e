import Transclusion.Files.Path
import Transclusion.Inclusion.Resolver
/-!
# File systems

A file system answers with what content a file can be read at a path, or why it cannot.  A tree of
files held in memory is one (`FileTree`): files with the names along their paths, and the
directories that these names imply.
-/

namespace Transclusion

structure FileSystem where
  read : FilePath → ExceptT SystemFault (Except Halt) (List UInt8)

namespace SystemFault

def noSuchFile : SystemFault := ⟨"No such file or directory", some 2⟩

def notDirectory : SystemFault := ⟨"Not a directory", some 20⟩

def isDirectory : SystemFault := ⟨"Is a directory", some 21⟩

def nameTooLong : SystemFault := ⟨"File name too long", some 36⟩

def nulByte : SystemFault := ⟨"file name contained an unexpected NUL byte", none⟩

end SystemFault

/-- The names that lead from the root of a file system to a file or a directory. -/
abbrev Location := List (List UInt8)

/-- What is at a location. -/
inductive FileEntry where
  | directory
  | file (content : List UInt8)
deriving DecidableEq, Repr

/-- Files at their locations, with a directory that is there even without files. -/
structure FileTree where
  root : Location
  files : List (Location × List UInt8)
deriving DecidableEq, Repr

namespace FileTree

/-- Limits on the bytes of a name and of a path. -/
def maxName : Nat := 255

def maxPath : Nat := 4095

/-- What is at a location: a file, or a directory if the location leads to something else. -/
def find? (tree : FileTree) (location : Location) : Option FileEntry :=
  match tree.files.find? fun file => file.1 = location with
  | some (_, content) => some (.file content)
  | none =>
    if location.isPrefixOf tree.root || tree.files.any fun file => location.isPrefixOf file.1 then
      some .directory
    else none

/-- Where one part of a path leads from a location. -/
def enter (tree : FileTree) (location : Location) (part : List UInt8) :
    Except SystemFault Location :=
  match tree.find? location with
  | none => .error .noSuchFile
  | some (.file _) => .error .notDirectory
  | some .directory =>
    if FilePath.staysOnSpot part then .ok location
    else if FilePath.leadsUp part then .ok location.dropLast
    else if maxName < part.length then .error .nameTooLong
    else if (tree.find? (location ++ [part])).isSome then .ok (location ++ [part])
    else .error .noSuchFile

/-- Refuses what is no path. There is no current directory that a relative path could start from. -/
def checkPath (path : FilePath) : Except SystemFault Unit :=
  if path.contains 0 then .error .nulByte
  else if maxPath < path.length then .error .nameTooLong
  else if FilePath.isAbsolute path then .ok ()
  else .error .noSuchFile

/-- The content of the file at a path. -/
def read (tree : FileTree) (path : FilePath) : Except SystemFault (List UInt8) := do
  checkPath path
  let location ← (FilePath.parts path).foldlM tree.enter []
  match tree.find? location with
  | some (.file content) => return content
  | _ => throw .isDirectory

/-- The tree after content has been written to the file at a path. The file need not be there, but
its directory must be. -/
def write (tree : FileTree) (path : FilePath) (content : List UInt8) :
    Except SystemFault FileTree := do
  checkPath path
  let parts := (FilePath.parts path).reverse
  let last := (parts.dropWhile (· = [])).head?.getD []
  let parents := (parts.dropWhile (· = [])).tail.reverse
  let directory ← parents.foldlM tree.enter []
  let location := directory ++ [last]
  match tree.find? directory with
  | some .directory =>
    if parts.head? = some [] || FilePath.staysOnSpot last || FilePath.leadsUp last then
      throw .isDirectory
    else if maxName < last.length then throw .nameTooLong
    else if tree.find? location = some .directory then throw .isDirectory
    else
      let others := tree.files.filter fun file => file.1 ≠ location
      return { tree with files := others ++ [(location, content)] }
  | _ => throw .notDirectory

/-- A tree as a file system. -/
def system (tree : FileTree) : FileSystem where
  read path := .ok (tree.read path)

end FileTree

end Transclusion
