import LSystems.OptionNumeral
import LSystems.Path

namespace LSystems

/-- Where a definition comes from: a file if one is named, else a preset. -/
structure Source where
  preset : Text
  file : Option Path

/-- What a command line asks for. -/
inductive Command
  | expand (source : Source) (generations : Nat) (lengthsOnly : Bool)
  | render (output : Path) (source : Source) (generations : Nat) (angle : Option Float)
      (width height : Option Int)
  | view (source : Source) (angle : Option Float)
  | help

/-- An option by its names, and whether a value follows it. -/
structure OptionRule where
  long : String
  short : Option Symbol
  takesValue : Bool

/-- How a word of the command line is read. -/
inductive ArgumentKind
  | positional
  | flag (name : String)
  | value (name : String) (value : Text)
  | valueFollows (name : String)
  | unknown

/-- A one-letter option; what follows the letter is its value. -/
def readShortOption (rules : List OptionRule) (letter : Symbol) (rest : Text) : ArgumentKind :=
  match rules.find? (·.short == some letter) with
  | some rule => if rest = [] then .valueFollows rule.long else .value rule.long rest
  | none => .unknown

/-- Reads a word: one that starts with a dash and goes on is an option, and a
value may stand behind an equals sign. Only an option that takes a value may
have a letter. -/
def readArgument (rules : List OptionRule) (argument : Text) : ArgumentKind :=
  match argument with
  | .char '-' :: letter :: rest =>
    let name := argument.takeWhile (· != .char '=')
    let value := argument.dropWhile (· != .char '=')
    match rules.find? fun rule => Text.ofString rule.long == name with
    | some rule =>
      match rule.takesValue, value with
      | true, [] => .valueFollows rule.long
      | true, _ :: value => .value rule.long value
      | false, [] => .flag rule.long
      | false, _ => .unknown
    | none => if letter = .char '-' then .unknown else readShortOption rules letter rest
  | _ => .positional

/-- The options of a command line with their values, the last one first, and its
other words. -/
structure Arguments where
  options : List (String × Text)
  words : List Text

/-- Reads all words of a command line; after a double dash none is an option. -/
def readArguments (rules : List OptionRule) : Arguments → List Text → Option Arguments
  | found, [] => some found
  | found, argument :: rest =>
    if argument = Text.ofString "--" then some { found with words := found.words ++ rest }
    else
      match readArgument rules argument with
      | .positional => readArguments rules { found with words := found.words ++ [argument] } rest
      | .flag name => readArguments rules { found with options := (name, []) :: found.options } rest
      | .value name value =>
        readArguments rules { found with options := (name, value) :: found.options } rest
      | .valueFollows name =>
        match rest with
        | value :: rest =>
          readArguments rules { found with options := (name, value) :: found.options } rest
        | [] => none
      | .unknown => none

/-- The path that a word of a command line names, if it can be a name. -/
def Path.ofArgument? (word : Text) : Option Path :=
  let path := Path.ofText word
  if path.nameFault?.isSome then none else some path

namespace Arguments

/-- Whether an option is given. -/
def has (a : Arguments) (name : String) : Bool :=
  (a.options.lookup name).isSome

/-- The text given last for an option, or the default one. -/
def text (a : Arguments) (name : String) (default : Text) : Text :=
  (a.options.lookup name).getD default

/-- The whole number given for an option, which is not below a minimum; the outer
option tells that the one given is unusable. -/
def integer? (a : Arguments) (name : String) (minimum : Int) : Option (Option Int) :=
  match a.options.lookup name with
  | none => some none
  | some text =>
    match text.string?.bind readOptionInteger? with
    | some n => if n < minimum then none else some (some n)
    | none => none

/-- The number given for an option; the outer option tells that the one given is unusable. -/
def float? (a : Arguments) (name : String) : Option (Option Float) :=
  match a.options.lookup name with
  | none => some none
  | some text => (text.string?.bind readOptionFloat?).map some

/-- Where the definition comes from; none when its path is unusable. -/
def source? (a : Arguments) : Option Source :=
  let preset := a.text "--preset" "plant"
  match a.options.lookup "--definition" with
  | none => some ⟨preset, none⟩
  | some word => (Path.ofArgument? word).map fun path => ⟨preset, some path⟩

end Arguments

namespace Command

/-- The option that asks for help. -/
def helpRule : OptionRule := ⟨"--help", none, false⟩

/-- The options that say where a definition comes from. -/
def sourceRules : List OptionRule :=
  [helpRule, ⟨"--preset", none, true⟩, ⟨"--definition", none, true⟩]

/-- The option for the number of generations. -/
def generationsRule : OptionRule := ⟨"--generations", some 'n', true⟩

/-- The option for the angle of a turn. -/
def angleRule : OptionRule := ⟨"--angle", none, true⟩

/-- Reads the words after `expand`. -/
def readExpand (words : List Text) : Option Command := do
  let found ← readArguments (generationsRule :: ⟨"--lengths-only", none, false⟩ :: sourceRules)
    ⟨[], []⟩ words
  if found.has "--help" then return help
  let source ← found.source?
  let generations ← found.integer? "--generations" 0
  if found.words ≠ [] then none
  else return expand source (generations.getD 3).toNat (found.has "--lengths-only")

/-- Reads the words after `render`. -/
def readRender (words : List Text) : Option Command := do
  let found ← readArguments (generationsRule :: angleRule :: ⟨"--width", none, true⟩
    :: ⟨"--height", none, true⟩ :: sourceRules) ⟨[], []⟩ words
  if found.has "--help" then return help
  let source ← found.source?
  let generations ← found.integer? "--generations" 0
  let angle ← found.float? "--angle"
  let width ← found.integer? "--width" 1
  let height ← found.integer? "--height" 1
  match found.words with
  | [output] =>
    let output ← Path.ofArgument? output
    return render output source (generations.getD 4).toNat angle width height
  | _ => none

/-- Reads the words after `show`. -/
def readView (words : List Text) : Option Command := do
  let found ← readArguments (angleRule :: sourceRules) ⟨[], []⟩ words
  if found.has "--help" then return help
  let source ← found.source?
  let angle ← found.float? "--angle"
  if found.words ≠ [] then none else return view source angle

/-- The command of a name with the words after it. -/
def ofName (name : Text) (words : List Text) : Option Command :=
  if name = Text.ofString "expand" then readExpand words
  else if name = Text.ofString "render" then readRender words
  else if name = Text.ofString "show" then readView words
  else none

/-- The command that the words of a command line ask for; none when they are misused.
A double dash may stand before the name of the command. -/
def ofArguments : List Text → Option Command
  | [] => none
  | first :: words =>
    if first = Text.ofString "--help" then some help
    else if first ≠ Text.ofString "--" then ofName first words
    else
      match words with
      | name :: words => ofName name words
      | [] => none

end Command

end LSystems
