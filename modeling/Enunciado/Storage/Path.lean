namespace Enunciado

-- The names on the way to a file. The names "" and "." are none; a first name "/" stands for the
-- root.
structure Path where
  parts : List String
deriving DecidableEq, Repr

namespace Path

def splitAt (separator : Char) : List Char → List (List Char)
  | [] => [[]]
  | c :: s =>
    match splitAt separator s with
    | part :: parts => if c = separator then [] :: part :: parts else (c :: part) :: parts
    | [] => [[c]]

def ofString (s : String) : Path :=
  let named := (splitAt '/' s.toList).filter fun name => name ≠ [] ∧ name ≠ ['.']
  let names := named.map String.ofList
  match s.toList with
  | '/' :: '/' :: '/' :: _ => ⟨"/" :: names⟩
  | '/' :: '/' :: _ => ⟨"//" :: names⟩
  | '/' :: _ => ⟨"/" :: names⟩
  | _ => ⟨names⟩

-- Whether a text can only be the path of a folder: its last name is none.
def namesFolder (s : String) : Bool :=
  match (splitAt '/' s.toList).getLast? with
  | some name => name = [] || name = ['.']
  | none => true

-- The path as text: "." when it has no names.
protected def toString (p : Path) : String :=
  match p.parts with
  | [] => "."
  | "/" :: names => "/" ++ "/".intercalate names
  | "//" :: names => "//" ++ "/".intercalate names
  | names => "/".intercalate names

instance : ToString Path := ⟨Path.toString⟩

def root : Path := ⟨["/"]⟩

def parent (p : Path) : Path :=
  ⟨p.parts.dropLast⟩

-- The folder that ".." leads to. Nothing is above the root, and the folders above the working
-- folder have no other names.
def up (p : Path) : Path :=
  match p.parts.getLast? with
  | none | some ".." => ⟨p.parts ++ [".."]⟩
  | some "/" => p
  | some _ => p.parent

def extend (p : Path) (suffix : String) : Path :=
  match p.parts.getLast? with
  | some name => ⟨p.parts.dropLast ++ [name ++ suffix]⟩
  | none => ⟨[suffix]⟩

-- The paths that lead to `p`, and `p` itself.
def upTo (p : Path) : List Path :=
  (List.range p.parts.length).map fun n => ⟨p.parts.take (n + 1)⟩

-- Whether the way to `q` goes through `p`.
def isAbove (p q : Path) : Bool :=
  p.parts.isPrefixOf q.parts && p.parts.length < q.parts.length

-- No file has a name with the character whose code is zero in it.
def hasNul (s : String) : Bool :=
  s.toList.contains '\x00'

end Path

end Enunciado
