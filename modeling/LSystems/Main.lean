import LSystems.Commands
import LSystems.PictureFile

namespace LSystems

/-- The environment variables that are looked at. -/
def settingNames : List String :=
  ["LINDENMAYER_TURN_ANGLE", "LINDENMAYER_BASE_DISTANCE", "LINDENMAYER_PROGRESS_STEP",
   "LINDENMAYER_CANVAS_WIDTH", "LINDENMAYER_CANVAS_HEIGHT", "LINDENMAYER_DEBUG_AXES"]

/-- The values of the environment variables that are looked at. -/
def readEnvironment : IO Environment := do
  let values ← settingNames.mapM fun name => return (name, ← IO.getEnv name)
  return fun name => (values.lookup name).join

/-- The bytes of a file, or why there are none. -/
def readFile (path : Path) : IO (Except FileFault ByteArray) := do
  match path.text.string? with
  | none => return .error .missing
  | some name =>
    try
      return .ok (← IO.FS.readBinFile name)
    catch
      | .inappropriateType .. => return .error .directory
      | _ => return .error .missing

/-- The file that a command reads. -/
def Command.file? : Command → Option Path
  | .expand source _ _ => source.file
  | .render _ source _ _ _ _ => source.file
  | .view source _ => source.file
  | .help => none

/-- The canvas of a size, whose sides are positive and have at most fifteen bits. -/
def canvasOf (size : Int × Int) : Except HostFault (Int32 × Int32) :=
  if 0 < size.1 ∧ 0 < size.2 ∧ size.1 < twoTo 15 ∧ size.2 < twoTo 15 then
    .ok (.ofInt size.1, .ofInt size.2)
  else .error ⟨"canvas", "the canvas cannot be made"⟩

/-- The surroundings of a command; its file is read beforehand, and its pictures can be saved where
the path is that of a file. -/
def surroundingsOf (c : Command) : IO Surroundings := do
  let env ← readEnvironment
  let content ←
    match c.file? with
    | some path => readFile path
    | none => pure (.error .missing)
  return {
    env := env
    read := fun _ => content
    depth := 1000
    canvas := canvasOf
    window := fun _ => .ok ()
    save := fun picture =>
      if picture.path.text.string?.isSome then .written
      else .failed ⟨"path", "the picture cannot be written"⟩ false
    echo := echoed }

/-- The text of what broke off a command. -/
def Break.message : Break → Text
  | source s => s.message
  | setting s => s.message
  | fault f => f.message
  | host h => h.text

/-- Writes a picture in the format that its ending names: PNG, or else TGA. -/
def writePicture (p : Picture) : IO Unit := do
  let raster := Raster.ofCalls p.width p.height p.calls
  if let some name := p.path.text.string? then
    IO.FS.writeBinFile name (if p.isPng then raster.toPng else raster.toTga)

/-- A text for the reader of an error stream, whatever it holds. -/
def Text.legible (t : Text) : String :=
  t.string?.getD (quoted t)

/-- Leaves what a command leads to and gives its exit code. -/
def leave (o : Outcome) : IO UInt32 := do
  try
    if let some picture := o.picture then writePicture picture
    for line in o.lines do IO.println line.legible
    if let some report := o.failed then IO.eprintln ("Rendering failed: " ++ report)
    if let some cause := o.broken then IO.eprintln cause.message.legible
    return o.exit.toUInt32
  catch e =>
    IO.eprintln (toString e)
    return 1

/-- Shows a viewer as its caption and takes each letter of a line for a key. -/
partial def watch (v : Viewer Float) (input : IO.FS.Stream) : IO Unit := do
  let (faults, v) := v.drain
  for fault in faults do IO.eprintln fault.message
  IO.println v.caption.legible
  let line ← input.getLine
  let events : List WindowEvent :=
    if line.isEmpty then [.quit]
    else (line.toList.filter (· != '\n')).map fun c => .keyDown c.toNat
  match v.turn events with
  | (true, v) => watch v input
  | (false, v) => IO.println v.caption.legible

/-- Carries out a command; a viewer is shown until it is told to quit. -/
def perform (c : Command) : IO UInt32 := do
  let around ← surroundingsOf c
  match c with
  | .view source angle =>
    match openViewer around source angle with
    | .ok (v, studio) =>
      if (studio.showing around).exit = 0 then watch v.render (← IO.getStdin)
      leave (studio.showing around)
    | .error o => leave o
  | c => leave (c.execute around)

end LSystems

def main (arguments : List String) : IO UInt32 :=
  match LSystems.Command.ofArguments (arguments.map LSystems.Text.ofString) with
  | some c => LSystems.perform c
  | none => do
    for line in LSystems.usage do IO.eprintln line.legible
    return 2
