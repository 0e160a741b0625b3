import LSystems.Canvas
import LSystems.CommandLine
import LSystems.DefinitionFile
import LSystems.Viewer

namespace LSystems

/-- A picture to be written: its path, its size, and the calls that paint it. -/
structure Picture where
  path : Path
  width : Int
  height : Int
  calls : List (DrawCall Float)

/-- Whether a picture is written in the format PNG. -/
def Picture.isPng (p : Picture) : Bool :=
  p.path.ending == "png"

/-- How the saving of a picture ends: it is written, or it fails, and may then have begun a file
that holds no picture. -/
inductive Saving
  | written
  | failed (fault : HostFault) (begun : Bool)

/-- What a command works with and does not decide itself: the environment, a way to read files,
how deep the values in a definition may be nested, the sides of the canvas that is made for a size,
the window that shows a canvas, the saving of a picture, and what the output makes of a line. -/
structure Surroundings where
  env : Environment
  read : Path → Except FileFault ByteArray
  depth : Nat
  canvas : Int × Int → Except HostFault (Int32 × Int32)
  window : Int × Int → Except HostFault Unit
  save : Picture → Saving
  echo : Text → Except HostFault Text

/-- A line as an output of bytes takes it, which refuses a line that has none. -/
def echoed (line : Text) : Except HostFault Text :=
  match line.encodingFault? fun _ => false with
  | some fault => .error ⟨"UnicodeEncodeError", fault.message⟩
  | none => .ok line

/-- Why a command breaks off with more than an exit code. -/
inductive Break
  | source (fault : SourceFault)
  | setting (fault : SettingFault)
  | fault (fault : Fault)
  | host (fault : HostFault)

/-- What a command leaves: its exit code, the lines it prints, the report of a
failed render, why it broke off, the picture to write, and the file that is left
empty in place of one. -/
structure Outcome where
  exit : Nat
  lines : List Text
  failed : Option String
  broken : Option Break
  picture : Option Picture
  emptied : Option Path

namespace Outcome

/-- The outcome of a command that ends well and leaves nothing. -/
def success : Outcome := ⟨0, [], none, none, none, none⟩

/-- A failure that is only told by the exit code. -/
def failure : Outcome := { success with exit := 1 }

/-- A failure that breaks off the command. -/
def broke (cause : Break) : Outcome := { failure with broken := some cause }

/-- A command line that is misused. -/
def misuse : Outcome := { failure with exit := 2 }

end Outcome

namespace Surroundings

/-- Prints lines one after another, up to the first that the output refuses. -/
def print (around : Surroundings) : List Text → List Text × Option HostFault
  | [] => ([], none)
  | line :: rest =>
    match around.echo line with
    | .error fault => ([], some fault)
    | .ok shown =>
      let (printed, fault) := around.print rest
      (shown :: printed, fault)

/-- The outcome of a command that ends with printing some lines. -/
def printing (around : Surroundings) (lines : List Text) : Outcome :=
  let (printed, refused) := around.print lines
  match refused with
  | none => { Outcome.success with lines := printed }
  | some fault => { Outcome.broke (.host fault) with lines := printed }

end Surroundings

/-- The definition of a source. A malformed definition and a file that cannot be
read are plain failures; any other fault breaks off the command. -/
def Source.resolve (s : Source) (around : Surroundings) : Except Outcome Definition :=
  match s.file with
  | none => (Definition.preset s.preset).mapError fun _ => .failure
  | some path =>
    match Definition.load around.depth around.read path with
    | .ok d => .ok d
    | .error (.definition _) => .error .failure
    | .error (.file _ _) => .error .failure
    | .error fault => .error (.broke (.source fault))

/-- A setting, whose fault breaks off the command. -/
def orBreak {β : Type} (setting : Except SettingFault β) : Except Outcome β :=
  setting.mapError fun fault => .broke (.setting fault)

/-- The line of one generation: its number, and its word or the length of that. -/
def generationLine (lengthsOnly : Bool) (generation : Nat) (w : Word) : Text :=
  Text.ofString (toString generation ++ ": ")
    ++ if lengthsOnly then Text.ofString (toString w.length) else w

/-- The lines for the generations from a word on, the first of the given number. -/
def generationLines (g : Grammar) (lengthsOnly : Bool) : Nat → Nat → Word → List Text
  | generation, count, w =>
    generationLine lengthsOnly generation w ::
      match count with
      | 0 => []
      | count + 1 => generationLines g lengthsOnly (generation + 1) count (g.rewrite w)

/-- Prints every generation from the seed on. -/
def expandCommand (around : Surroundings) (source : Source) (generations : Nat)
    (lengthsOnly : Bool) : Except Outcome Outcome := do
  let d ← source.resolve around
  return around.printing (generationLines d.grammar lengthsOnly 0 generations d.seed)

/-- A coordinator for a definition as the environment sets it up, its canvas, and
how it is painted. -/
structure Studio where
  coordinator : Coordinator Float
  width : Int
  height : Int
  palette : Palette

/-- Sets up a coordinator for a definition; what is asked for comes before what
the environment or the definition says, and the canvas is made before the rest. -/
def Studio.prepare (around : Surroundings) (d : Definition) (angle : Option Float)
    (width height : Option Int) : Except Outcome Studio := do
  let (defaultWidth, defaultHeight) ← orBreak around.env.canvasSize
  let size := (width.getD defaultWidth, height.getD defaultHeight)
  let (width, height) ← (around.canvas size).mapError fun fault => .broke (.host fault)
  let step ← orBreak around.env.progressStep
  let interpreter : Interpreter Float := ⟨.degrees, angle.getD d.angle, step⟩
  let system ← orBreak (LSystem.configured around.env d.seed d.grammar)
  let base ← orBreak around.env.baseDistance
  let coordinator := .start system interpreter base ⟨.whole width.toInt, .whole height.toInt⟩
  return ⟨coordinator, width.toInt, height.toInt, .standard around.env.debugAxes⟩

/-- The calls that paint the strokes drawn last. -/
def Studio.calls (s : Studio) (c : Coordinator Float) : List (DrawCall Float) :=
  s.palette.calls s.width s.height ((Scalar.ofInt? s.height).getD 0) c.surface.strokes

/-- The line that tells which generation of a definition has been written where. -/
def writtenLine (generation : Option Nat) (name : Text) (output : Path) : Text :=
  let number := (generation.map toString).getD "None"
  Text.ofString ("Wrote generation " ++ number ++ " of ") ++ name ++ Text.ofString " to "
    ++ output.text

/-- Renders one generation to a picture. -/
def renderCommand (around : Surroundings) (output : Path) (source : Source) (generations : Nat)
    (angle : Option Float) (width height : Option Int) : Except Outcome Outcome := do
  let d ← source.resolve around
  let studio ← Studio.prepare around d angle width height
  let grown := (studio.coordinator.growTimes generations).coordinator
  match grown.drain with
  | (fault :: _, _) => throw (.broke (.fault fault))
  | ([], grown) =>
    let rendered := grown.render
    let reports := rendered.events.filterMap fun | .error report => some report | _ => none
    match rendered.coordinator.drain.1, reports with
    | fault :: _, _ => throw (.broke (.fault fault))
    | [], report :: _ => throw { Outcome.failure with failed := some report }
    | [], [] =>
      let picture := ⟨output, studio.width, studio.height, studio.calls rendered.coordinator⟩
      match around.save picture with
      | .failed fault begun =>
        throw { Outcome.broke (.host fault) with emptied := if begun then some output else none }
      | .written =>
        let line := writtenLine rendered.coordinator.measuredGeneration d.name output
        return { around.printing [line] with picture := some picture }

/-- A viewer for a definition, and how it is painted. -/
def openViewer (around : Surroundings) (source : Source) (angle : Option Float) :
    Except Outcome (Viewer Float × Studio) := do
  let d ← source.resolve around
  let studio ← Studio.prepare around d angle none none
  return (.start studio.coordinator d.name, studio)

/-- How the showing of a viewer ends: well, unless no window can show the canvas. -/
def Studio.showing (around : Surroundings) (s : Studio) : Outcome :=
  match around.window (s.width, s.height) with
  | .ok () => .success
  | .error fault => .broke (.host fault)

/-- A session of a viewer on the canvas; without a window there is none, and the viewer
stays as it is. -/
def Studio.session (around : Surroundings) (s : Studio) (v : Viewer Float)
    (script : List (List WindowEvent)) : List (List Fault × Viewer Float) × Viewer Float :=
  match around.window (s.width, s.height) with
  | .ok () => v.session script
  | .error _ => ([], v)

/-- How the program is called. -/
def usage : List Text :=
  ["Usage: expand [-n COUNT] [--lengths-only] | render OUTPUT [-n COUNT] [--angle DEGREES]"
     ++ " [--width PIXELS] [--height PIXELS] | show [--angle DEGREES]",
   "Every command takes --preset NAME or --definition FILE."]

/-- Carries out a command; a viewer needs a window, so it is only set up. -/
def Command.execute (around : Surroundings) (c : Command) : Outcome :=
  let result : Except Outcome Outcome :=
    match c with
    | .expand source generations lengthsOnly => expandCommand around source generations lengthsOnly
    | .render output source generations angle width height =>
      renderCommand around output source generations angle width height
    | .view source angle => (openViewer around source angle).map (·.2.showing around)
    | .help => .ok (around.printing usage)
  match result with
  | .ok outcome => outcome
  | .error outcome => outcome

/-- What a command line leads to; one that is misused ends with exit code two. -/
def runArguments (around : Surroundings) (arguments : List Text) : Outcome :=
  match Command.ofArguments arguments with
  | some c => c.execute around
  | none => .misuse

end LSystems
