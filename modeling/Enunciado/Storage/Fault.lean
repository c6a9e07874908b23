import Enunciado.Text.Quoted

namespace Enunciado

inductive FileFault
  | notFound
  | busy
  | exists
  | notFolder
  | isFolder
  | nameTooLong
deriving DecidableEq, Repr

namespace FileFault

def number : FileFault → Nat
  | notFound => 2
  | busy => 16
  | .exists => 17
  | notFolder => 20
  | isFolder => 21
  | nameTooLong => 36

def description : FileFault → String
  | notFound => "No such file or directory"
  | busy => "Device or resource busy"
  | .exists => "File exists"
  | notFolder => "Not a directory"
  | isFolder => "Is a directory"
  | nameTooLong => "File name too long"

end FileFault

inductive FileError
  -- A fault, and the path as it was given.
  | fault (fault : FileFault) (path : String)
  -- A fault when a file is moved, with both paths.
  | move (fault : FileFault) (source target : String)
  -- A path with the character whose code is zero.
  | nul
deriving DecidableEq, Repr

def FileError.message : FileError → String
  | fault f path => s!"[Errno {f.number}] {f.description}: {Text.inQuotes path}"
  | move f source target =>
    s!"[Errno {f.number}] {f.description}: {Text.inQuotes source} -> {Text.inQuotes target}"
  | nul => "embedded null byte"

end Enunciado
