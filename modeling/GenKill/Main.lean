import GenKill.CommandLine.Run
import Std.Time

namespace GenKill.Program

open CommandLine

def slashed (parts : List String) : String := "/" ++ "/".intercalate parts

def takeSpot (t : FileTree) (parts : List String) : IO (FileTree × Bool) := do
  let here := (← IO.currentDir) / slashed parts
  if ← here.isDir then return (t.addDirectory parts, true)
  if ← here.pathExists then return (t.addFile parts (← IO.FS.readBinFile here), false)
  return (t, false)

def takeAlong (t : FileTree) (place : List String) : List String → IO FileTree
  | [] => return t
  | part :: rest => do
    let place := if part == ".." then place.dropLast else place ++ [part]
    let (t, open?) ← takeSpot t place
    if open? then takeAlong t place rest else return t

def take (t : FileTree) (p : Path) : IO FileTree := takeAlong t (t.start p.root) p.parts

def takeDirectory (t : FileTree) (p : Path) : IO FileTree := do
  let t ← take t p
  match t.find p with
  | .ok (.directory parts) =>
    let entries ← ((← IO.currentDir) / slashed parts).readDir
    let names := (entries.toList.map (·.fileName)).filter fun n =>
      n.endsWith ".yaml" || n.endsWith ".yml"
    names.foldlM (fun t name => return (← takeSpot t (parts ++ [name])).1) t
  | _ => return t

def takeAll (o : Options) (t : FileTree) : IO FileTree := do
  let t ← (o.source.toList ++ o.output.value?.toList).foldlM (fun t s => take t (Path.ofText s)) t
  let t ← o.configPath?.toList.foldlM take t
  match (Settings.load Yaml.read t o.configPath?).outcome with
  | .ok s => (Analyzer.libraryDir? s).toList.foldlM takeDirectory t
  | .error _ => return t

def workingDirectory : IO FileTree := do
  return { base := ((← IO.currentDir).toString.splitOn "/").filter (· != "") }

def readInput (o : Options) : IO (Option String) := do
  if o.source != some "-" then return some ""
  return Text.utf8? (← (← IO.getStdin).readBinToEnd)

def timestamp : IO String := do
  let now ← Std.Time.Timestamp.now
  let now := Std.Time.DateTime.ofTimestamp now Std.Time.TimeZone.ZoneRules.UTC
  return now.toPlainDateTime.format "uuuu-MM-dd'T'HH:mm:ss.SSSSSS" ++ "+00:00"

def logTime : IO String := do
  return (← Std.Time.PlainDateTime.now).format "uuuu-MM-dd HH:mm:ss"

def conclude (outcome : Outcome) : IO UInt32 := do
  let time ← logTime
  for e in outcome.log do IO.eprintln (e.line time)
  IO.print outcome.stdout
  IO.eprint outcome.stderr
  if let some (path, content) := outcome.written then IO.FS.writeFile path content
  match outcome.ending with
  | .ok code => return code.toUInt32
  | .error e =>
    IO.eprintln e.message
    return 1

def timed (o : Options) (env : Environment) : IO Outcome := do
  let begun ← IO.monoMsNow
  let outcome ← IO.lazyPure fun _ => o.run env
  let elapsed := (← IO.monoMsNow) - begun
  if o.verbose || o.debug then return o.run { env with clock := { env.clock with elapsed } }
  return outcome

def runOptions (o : Options) : IO UInt32 := do
  let files ← takeAll o (← workingDirectory)
  let input ← readInput o
  let terminal ← (← IO.getStdout).isTty
  conclude (← timed o { files, input, terminal, clock := { timestamp := ← timestamp } })

end GenKill.Program

def main (args : List String) : IO UInt32 :=
  match GenKill.CommandLine.Options.parse args with
  | .ok o => GenKill.Program.runOptions o
  | .error stop => GenKill.Program.conclude (stop.outcome {})
