import Enunciado.Analysis.Report
import Enunciado.Json.Writer
import Enunciado.Storage.Change
import Enunciado.Storage.Encoding

namespace Enunciado

-- Where a history is kept, and how many reports it keeps.
structure History where
  path : Path
  maxEntries : Number
deriving DecidableEq

-- Why a history cannot be opened, read or written.
inductive HistoryError
  -- The greatest number of entries is not positive.
  | notPositive (value : Json)
  -- The greatest number of entries, or the number of an entry, is none that can count.
  | notACount (value : Json)
  | file (e : FileError)
  -- The file holds a whole number with too many digits.
  | tooManyDigits (count : Nat)
  -- What should be written holds one.
  | unwritable
deriving DecidableEq

-- The words for the error; none for the errors that only tell the kind of a value.
def HistoryError.message? : HistoryError → Option String
  | notPositive v => some (v.inMessage fun s => s!"max_entries debe ser positivo, recibí {s}")
  | notACount _ => none
  | file e => some e.message
  | tooManyDigits n => some (Json.Fault.tooManyDigits n).message
  | unwritable => some Json.tooManyDigitsMessage

namespace History

-- The history in a file, with a limit of one entry or more.
def «open» (path : String) (maxEntries : Json) : Except HistoryError History :=
  match Number.ofJson? maxEntries with
  | none => .error (.notACount maxEntries)
  | some n =>
    if n.lt (.int 1) then .error (.notPositive maxEntries) else .ok ⟨.ofString path, n⟩

-- The entries in a document: those of its list, or of the list in its field "history", that are
-- objects.
def entriesOf (v : Json) : List Json :=
  let list := match v with
    | .obj fields => (lookup "history" fields).getD (.arr [])
    | v => v
  match list with
  | .arr items => items.filter fun v => match v with
    | .obj _ => true
    | _ => false
  | _ => []

-- The entries in the bytes of a file; none if they are no JSON.
def entriesOfBytes (bytes : ByteArray) : Except HistoryError (List Json) :=
  match decodeText? bytes with
  | none => .ok []
  | some text =>
    match Json.parse text with
    | .ok v => .ok (entriesOf v)
    | .error ⟨.tooManyDigits n, _⟩ => .error (.tooManyDigits n)
    | .error _ => .ok []

-- The entries as they are stored, whether or not they hold reports.
def stored (h : History) (d : Directory) : Except HistoryError (List Json) :=
  match d.has h.path with
  | .error e => .error (.file e)
  | .ok false => .ok []
  | .ok true => match d.read h.path h.path.toString with
    | .error e => .error (.file e)
    | .ok bytes => entriesOfBytes bytes

def report? (v : Json) : Option (Report Json) :=
  (Report.ofJson v).toOption

-- The reports in the history, the newest first.
def entries (h : History) (d : Directory) : Except HistoryError (List (Report Json)) :=
  (h.stored d).map (·.filterMap report?)

def size (h : History) (d : Directory) : Except HistoryError Nat :=
  (h.entries d).map List.length

-- The report with this many newer ones.
def get? (h : History) (d : Directory) (i : Int) : Except HistoryError (Option (Report Json)) :=
  (h.entries d).map fun rs => if i < 0 then none else rs[i.toNat]?

-- The report at a place that is given as any value. It has to be a number; one that is not whole
-- is an error where there would be a report.
def getAt? (h : History) (d : Directory) (i : Json) :
    Except HistoryError (Option (Report Json)) := do
  let rs ← h.entries d
  match Number.ofJson? i with
  | none => throw (.notACount i)
  | some n =>
    if (Number.int 0).le n && n.lt (.int rs.length) then
      match n.integer? with
      | none => throw (.notACount i)
      | some k => h.get? d k
    else return none

-- The file that takes the place of the history's, once it is whole.
def draft (h : History) : Path :=
  h.path.extend ".tmp"

def document (entries : List Json) : Json :=
  .obj [("history", .arr entries)]

def encode (entries : List Json) : ByteArray :=
  encodeText (document entries).pretty

-- The entries that are kept when a report is put in front: those that hold reports, as many as
-- there is room for.
def keep (limit : Nat) (r : Report Json) (stored : List Json) : List Json :=
  (r.toJson :: stored.filter fun v => (report? v).isSome).take limit

-- The number of entries that are kept; an error if the limit is no whole number.
def limit (h : History) : Except HistoryError Nat :=
  match h.maxEntries.integer? with
  | some n => .ok n.toNat
  | none => .error (.notACount h.maxEntries.toJson)

-- Entries that can not be written in full are left in the draft as far as they can.
def save (h : History) (d : Directory) (r : Report Json) : Change HistoryError :=
  match h.stored d, h.limit with
  | .error e, _ | .ok _, .error e => .failed d e
  | .ok stored, .ok limit =>
    let v := document (keep limit r stored)
    ((d.deposit h.draft (encodeText v.prettyUpTo)).mapError .file).next fun d =>
      if v.hasLong then .failed d .unwritable else (d.move h.draft h.path).mapError .file

def clear (h : History) (d : Directory) : Change HistoryError :=
  (d.remove h.path).mapError .file

end History

end Enunciado
