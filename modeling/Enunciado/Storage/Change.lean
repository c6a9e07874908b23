import Enunciado.Storage.Directory

namespace Enunciado

-- What has become of a directory, and why the change was not finished, unless it was. What was done
-- before it came to its end stays done.
structure Change (ε : Type) where
  directory : Directory
  failure? : Option ε

namespace Change

variable {ε ε' : Type}

def done (d : Directory) : Change ε := ⟨d, none⟩

def failed (d : Directory) (e : ε) : Change ε := ⟨d, some e⟩

-- Goes on with another change, if the first one was finished.
def next (c : Change ε) (f : Directory → Change ε) : Change ε :=
  if c.failure?.isSome then c else f c.directory

def mapError (f : ε → ε') (c : Change ε) : Change ε' :=
  ⟨c.directory, c.failure?.map f⟩

@[simp] theorem next_done (d : Directory) (f : Directory → Change ε) : (done d).next f = f d :=
  rfl

@[simp] theorem next_failed (d : Directory) (e : ε) (f : Directory → Change ε) :
    (failed d e).next f = failed d e :=
  rfl

@[simp] theorem mapError_done (f : ε → ε') (d : Directory) : (done d).mapError f = done d :=
  rfl

@[simp] theorem mapError_failed (f : ε → ε') (d : Directory) (e : ε) :
    (failed d e).mapError f = failed d (f e) :=
  rfl

theorem mapError_next (c : Change ε) (f : Directory → Change ε) (g : ε → ε') :
    (c.next f).mapError g = (c.mapError g).next fun d => (f d).mapError g := by
  obtain ⟨d, failure?⟩ := c
  cases failure? <;> rfl

end Change

namespace Directory

def set (d : Directory) (place : Path) (bytes : ByteArray) : Directory :=
  { d with files := put place bytes d.files }

-- Takes a file away; the folder that it was in stays.
def erase (d : Directory) (place : Path) : Directory :=
  ⟨d.files.filter (·.1 ≠ place), d.folders ++ [place.parent]⟩

-- Makes a folder in one that is there, unless it is there itself.
def addFolder (d : Directory) (p : Path) : Except FileFault Directory :=
  match d.locate p with
  | .error f => .error f
  | .ok place =>
    if d.isFolder place then .ok d
    else if (d.file? place).isSome then .error .exists
    else .ok { d with folders := d.folders ++ [place] }

-- Makes a folder and the folders on the way to it, unless they are there.
def addFolders (d : Directory) (p : Path) : Change FileError :=
  match d.addFolder p with
  | .ok d => .done d
  | .error f =>
    if f = .notFound ∧ p.parts ≠ [] then
      (d.addFolders p.parent).next fun d =>
        match d.addFolder p with
        | .ok d => .done d
        | .error f => .failed d (.fault f p.toString)
    else .failed d (.fault f p.toString)
termination_by p.parts.length
decreasing_by
  have := List.length_pos_iff.mpr (by assumption : _ ∧ p.parts ≠ []).2
  simp [Path.parent]; omega

def makeFolder (d : Directory) (p : Path) : Change FileError :=
  if Path.hasNul p.toString then .failed d .nul else d.addFolders p

def write (d : Directory) (p : Path) (bytes : ByteArray) : Change FileError :=
  if Path.hasNul p.toString then .failed d .nul
  else match d.locate p with
    | .error f => .failed d (.fault f p.toString)
    | .ok place =>
      if d.isFolder place then .failed d (.fault .isFolder p.toString)
      else .done (d.set place bytes)

-- Writes a file, after the folder that it goes into is made.
def deposit (d : Directory) (p : Path) (bytes : ByteArray) : Change FileError :=
  (d.makeFolder p.parent).next fun d => d.write p bytes

-- Removes a file, if it is there.
def remove (d : Directory) (p : Path) : Change FileError :=
  if Path.hasNul p.toString then .failed d .nul
  else match d.locate p with
    | .error .notFound => .done d
    | .error f => .failed d (.fault f p.toString)
    | .ok place =>
      if (d.file? place).isSome then .done (d.erase place)
      else if d.isFolder place then .failed d (.fault .isFolder p.toString)
      else .done d

-- Moves a file to where another may be, which it replaces. A folder is not replaced, and one that
-- is called ".." is in use.
def move (d : Directory) (source target : Path) : Change FileError :=
  let failed f := Change.failed d (.move f source.toString target.toString)
  match d.locate source, d.locate target with
  | .error f, _ | .ok _, .error f => failed f
  | .ok place, .ok goal =>
    match d.file? place with
    | none => failed .notFound
    | some bytes =>
      if target.parts.getLast? = some ".." then failed .busy
      else if d.isFolder goal then failed .isFolder
      else .done ((d.erase place).set goal bytes)

theorem file?_set_self (d : Directory) (place : Path) (bytes : ByteArray) :
    (d.set place bytes).file? place = some bytes :=
  lookup_put_self ..

theorem file?_set_of_ne (d : Directory) {p q : Path} (h : p ≠ q) (bytes : ByteArray) :
    (d.set p bytes).file? q = d.file? q :=
  lookup_put_of_ne h ..

end Directory

end Enunciado
