import Enunciado.Json.Basic
import Enunciado.Storage.Fault
import Enunciado.Storage.Path

namespace Enunciado

-- Files with their bytes, and folders that have been made, by their places. A place is a path
-- without detours; other paths lead to one, name by name through folders that are there.
structure Directory where
  files : List (Path × ByteArray)
  folders : List Path

namespace Directory

def empty : Directory := ⟨[], []⟩

def file? (d : Directory) (place : Path) : Option ByteArray :=
  lookup place d.files

-- Whether there is a folder at a place: the working folder or one above it, the root, one that was
-- made, or one that something is in.
def isFolder (d : Directory) (place : Path) : Bool :=
  place.parts.all (· = "..") || place = .root ||
    d.folders.any (fun q => q = place || place.isAbove q) ||
    d.files.any (fun f => place.isAbove f.1)

section Places

-- The number of bytes that a name may not have.
def nameLimit : Nat := 256

-- The number of bytes that a path may not have.
def pathLimit : Nat := 4096

def enter (d : Directory) (folder : Path) (name : String) : Except FileFault Path :=
  if (d.file? folder).isSome then .error .notFolder
  else if !d.isFolder folder then .error .notFound
  else if name = ".." then .ok folder.up
  else if name = "/" || name = "//" then .ok .root
  else if nameLimit ≤ name.utf8ByteSize then .error .nameTooLong
  else .ok ⟨folder.parts ++ [name]⟩

-- The place that a path leads to, whether or not there is anything.
def locate (d : Directory) (p : Path) : Except FileFault Path :=
  if pathLimit ≤ p.toString.utf8ByteSize then .error .nameTooLong
  else p.parts.foldlM d.enter ⟨[]⟩

end Places

def has (d : Directory) (p : Path) : Except FileError Bool :=
  if Path.hasNul p.toString then .ok false
  else match d.locate p with
    | .ok place => .ok ((d.file? place).isSome || d.isFolder place)
    | .error .nameTooLong => .error (.fault .nameTooLong p.toString)
    | .error _ => .ok false

-- The bytes of a file, which is named as it was given if there is none.
def read (d : Directory) (p : Path) (name : String) : Except FileError ByteArray :=
  if Path.hasNul name then .error .nul
  else match d.locate p with
    | .error f => .error (.fault f name)
    | .ok place => match d.file? place with
      | some bytes => .ok bytes
      | none => .error (.fault (if d.isFolder place then .isFolder else .notFound) name)

def readNamed (d : Directory) (name : String) : Except FileError ByteArray :=
  if pathLimit ≤ name.utf8ByteSize && !Path.hasNul name then .error (.fault .nameTooLong name)
  else match d.read (.ofString name) name with
    | .error e => .error e
    | .ok bytes =>
      if Path.namesFolder name then .error (.fault .notFolder name) else .ok bytes

end Directory

end Enunciado
