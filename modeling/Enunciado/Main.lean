import Std.Time
import Enunciado.CommandLine.Markup
import Enunciado.CommandLine.Run
import Enunciado.Settings.EnvironmentFile

namespace Enunciado

def mentioned (argv : List String) : List Path :=
  match CommandLine.parse argv with
  | .ok (.run a) => ([a.config, a.history, a.json].filterMap id).map .ofString
  | _ => []

-- The directory with the file or folder that the machine has at the place that a path leads to.
def fetch (d : Directory) (p : Path) : IO Directory := do
  match d.locate p with
  | .error _ => return d
  | .ok place =>
    try
      let found ← IO.FS.realPath place.toString
      if ← found.isDir then return { d with folders := d.folders ++ [place] }
      return d.set place (← IO.FS.readBinFile found)
    catch _ => return d

-- The mentioned files and folders, and those on the way to them.
def fetchAll (argv : List String) : IO Directory :=
  ((mentioned argv).flatMap Path.upTo).foldlM fetch .empty

-- Makes the folders of `after` that `before` lacks, and puts the files that differ in place.
def deliverAll (before after : Directory) : IO Unit := do
  for place in after.folders do
    unless before.isFolder place do IO.FS.createDirAll place.toString
  for (p, bytes) in after.files do
    unless (before.file? p).any (· == bytes) do
      IO.FS.createDirAll p.parent.toString
      let draft := (p.extend ".tmp").toString
      IO.FS.writeBinFile draft bytes
      IO.FS.rename draft p.toString

-- The variables of the environment that hold settings. A file of variables may add to them.
def fetchEnvironment : IO Settings.Environment := do
  let found ← Settings.variableNames.filterMapM fun name =>
    return (← IO.getEnv name).map fun value => (name, value)
  try
    let text ← IO.FS.readFile ".env"
    return (EnvironmentFile.reader.load found text).toOption.getD found
  catch _ => return found

def timestamp : IO String := do
  let now := Std.Time.DateTime.ofTimestampWithZone (← Std.Time.Timestamp.now) .GMT
  return now.format "uuuu-MM-dd'T'HH:mm:ss.SSSSSSxxx"

end Enunciado

open Enunciado in
def main (argv : List String) : IO UInt32 := do
  let before ← fetchAll argv
  let o := CommandLine.run CommandLine.console argv (← fetchEnvironment) before (← timestamp)
  if o.help then IO.print CommandLine.helpText
  for line in o.shown.flatMap CommandLine.plainLines do IO.println line
  if let some e := o.usage then
    for line in CommandLine.usageLines ++ [CommandLine.usageErrorText e] do IO.eprintln line
  deliverAll before o.directory
  match o.ending with
  | .exit code => return code.toUInt32
  | .failure e =>
    IO.eprintln (e.message?.getD "error")
    return 1
