import Enunciado.Json.Writer
import Enunciado.Settings.Basic
import Enunciado.Storage.Change
import Enunciado.Storage.Encoding

namespace Enunciado.Settings

inductive TargetError
  | file (e : FileError)
  -- A whole number has too many digits to be written.
  | tooManyDigits
deriving DecidableEq

def TargetError.message : TargetError → String
  | file e => e.message
  | tooManyDigits => Json.tooManyDigitsMessage

-- Writes the settings to a file, after the folder that it goes into is made.
def save (s : Settings) (d : Directory) (name : String) : Change TargetError :=
  let written := d.deposit (.ofString name) (encodeText s.toJson.prettyUpTo)
  (written.mapError .file).next fun d =>
    if s.toJson.hasLong then .failed d .tooManyDigits else .done d

end Enunciado.Settings
