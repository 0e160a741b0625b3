import LSystems.Growth
import LSystems.Settings

namespace LSystems

/-- A named system: its seed, its rules, and the angle of its turns. -/
structure Definition where
  name : Text
  seed : Word
  grammar : Grammar
  angle : Float
deriving DecidableEq

/-- Why a value or a name gives no definition. -/
inductive DefinitionFault
  | notObject
  | seed
  | rules
  | angle
  | name
  | rule (fault : GrammarFault)
  | unknownPreset (name : Text) (known : List Text)
  | invalidJson (path : Text)
deriving DecidableEq

/-- The text of a definition fault. -/
def DefinitionFault.message : DefinitionFault → Text
  | notObject => "definition must be a JSON object"
  | seed => "axiom must be a non-empty string"
  | rules => "rules must be an object"
  | angle => "angle must be a number"
  | name => "name must be a string"
  | rule fault => fault.message
  | unknownPreset asked known =>
    Text.ofString ("unknown preset " ++ quoted asked ++ " (known: ")
      ++ List.intercalate (Text.ofString ", ") known ++ Text.ofString ")"
  | invalidJson path => path ++ Text.ofString ": invalid JSON"

namespace Definition

/-- The system of a definition, at its seed. -/
def build (d : Definition) (step : Int) : LSystem :=
  .start d.seed d.grammar step

/-- The name of a definition that gives none. -/
def defaultName : Text := "custom"

/-- The presets: a plant, the growth of algae, and three curves. -/
def presets : List Definition :=
  let rules (pairs : List (Char × String)) : Grammar :=
    .ofRules (pairs.map fun (c, w) => (.char c, Text.ofString w))
  [⟨"plant", ['F'], rules [('F', "F[+F]F[-F][F]")], 20.0⟩,
   ⟨"algae", ['A'], rules [('A', "AB"), ('B', "A")], Environment.defaultAngle⟩,
   ⟨"sierpinski", ['F'], rules [('F', "G-F-G"), ('G', "F+G+F")], 60.0⟩,
   ⟨"fractal-plant", ['X'], rules [('X', "F+[[X]-X]-F[-FX]+X"), ('F', "FF")], 25.0⟩,
   ⟨"koch", ['F'], rules [('F', "F+F--F+F")], 60.0⟩]

/-- The names of the presets in the order of their code points. -/
def presetNames : List Text :=
  (presets.map Definition.name).mergeSort fun a b =>
    (List.compareLex compare (a.map Symbol.code) (b.map Symbol.code)).isLE

/-- The preset of a name. -/
def preset (name : Text) : Except DefinitionFault Definition :=
  match presets.find? (·.name == name) with
  | some d => .ok d
  | none => .error (.unknownPreset name presetNames)

end Definition

end LSystems
