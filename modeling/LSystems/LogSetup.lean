import LSystems.Folder
import LSystems.Quoted
import LSystems.Settings

namespace LSystems

/-- The letters that upper-casing makes of a character; of those outside ASCII only
the ones whose capitals are ASCII letters are changed. -/
def upperLetters (c : Char) : List Char :=
  match c with
  | 'ı' => ['I']
  | 'ſ' => ['S']
  | 'ß' => ['S', 'S']
  | 'ﬀ' => ['F', 'F']
  | 'ﬁ' => ['F', 'I']
  | 'ﬂ' => ['F', 'L']
  | 'ﬃ' => ['F', 'F', 'I']
  | 'ﬄ' => ['F', 'F', 'L']
  | 'ﬅ' => ['S', 'T']
  | 'ﬆ' => ['S', 'T']
  | c => [c.toUpper]

/-- The severities of messages by name. -/
def logLevels : List (String × Nat) :=
  [("CRITICAL", 50), ("FATAL", 50), ("ERROR", 40), ("WARN", 30), ("WARNING", 30), ("INFO", 20),
   ("DEBUG", 10), ("NOTSET", 0)]

/-- The layout of plain messages, which goes by the name `BASIC_FORMAT`. -/
def basicLayout : String := "%(levelname)s:%(name)s:%(message)s"

/-- The styles of layouts, which go by the name `_STYLES`: the mark of each, its kind
and its plain layout. -/
def layoutStyles : List (Char × String × String) :=
  [('%', "PercentStyle", basicLayout),
   ('\x7b', "StrFormatStyle", "\x7blevelname\x7d:\x7bname\x7d:\x7bmessage\x7d"),
   ('$', "StringTemplateStyle", "$\x7blevelname\x7d:$\x7bname\x7d:$\x7bmessage\x7d")]

/-- The styles of layouts as messages show them. -/
def shownStyles : String :=
  let entry : Char × String × String → String := fun (mark, kind, layout) =>
    quoted [.char mark] ++ ": (<class 'logging." ++ kind ++ "'>, " ++ quoted layout ++ ")"
  "\x7b" ++ String.intercalate ", " (layoutStyles.map entry) ++ "\x7d"

/-- Why a logger cannot be set up: the names of the layout and of the styles are no
severities, only the user's own home folder is known, its folder is too deep or cannot
be made, and no file has a null character in its name. -/
inductive LogFault
  | layout
  | styles
  | unknownHome
  | tooDeep
  | file (path : Text) (fault : FileFault)
  | nullByte
deriving DecidableEq

/-- The text of a log fault. -/
def LogFault.message : LogFault → String
  | layout => "Unknown level: " ++ quoted basicLayout
  | styles => "Level not an integer or a valid string: " ++ shownStyles
  | unknownHome => "Could not determine home directory."
  | tooDeep => "maximum recursion depth exceeded while calling a Python object"
  | file path fault => fault.message path
  | nullByte => "embedded null byte"

/-- The least severity that is logged, by the name in the environment; an unknown
name stands for `INFO`. -/
def Environment.logLevel (env : Environment) : Except LogFault Nat :=
  let name := String.ofList (((env "LOG_LEVEL").getD "INFO").toList.flatMap upperLetters)
  if name = "BASIC_FORMAT" then .error .layout
  else if name = "_STYLES" then .error .styles
  else .ok ((logLevels.lookup name).getD 20)

/-- The name of the file of a logger: slashes and dots become underscores, and the
logger without a name is the root. -/
def logFileName (name : String) : String :=
  let cleaned := name.toList.map fun c => if c = '/' ∨ c = '.' then '_' else c
  if cleaned = [] then "root" else String.ofList cleaned

/-- The folder of the log files, from the home folder unless the environment names one;
a leading tilde stands for the home folder. -/
def Environment.logFolder (env : Environment) : Except LogFault Path :=
  match env "LINDENMAYER_LOG_DIR" with
  | none | some "" => .ok ⟨"", [".lindenmayer", "logs"]⟩
  | some text =>
    let path := Path.ofText text
    match path.root, path.parts with
    | "", (.char '~' :: user) :: rest =>
      if user = [] then .ok { path with parts := rest } else .error .unknownHome
    | _, _ => .ok path

/-- Makes the folder of the log files where there are no folders yet, with those above
it, as long as they are not too many inside one another. Nothing is made when the whole path
or the first name is too long; otherwise the names are taken one after another. -/
def makeLogFolder (depth : Nat) (p : Path) : Except LogFault Unit :=
  let made := p.parts.dropWhile (· == Text.ofString "..")
  let fitting := p.parts.takeWhile (!Folder.nameTooLong ·)
  if Folder.pathTooLong p || made.head?.any Folder.nameTooLong then
    .error (.file p.text .nameTooLong)
  else if depth < made.length then .error .tooDeep
  else if fitting.length < p.parts.length then
    .error (.file { p with parts := p.parts.take (fitting.length + 1) }.text .nameTooLong)
  else .ok ()

/-- Where messages go: to the error stream or to a file that is rolled over. -/
inductive LogHandler
  | stream
  | rollingFile (path : Path)
deriving DecidableEq

/-- The name of the kind of a handler. -/
def LogHandler.kindName : LogHandler → String
  | stream => "StreamHandler"
  | rollingFile _ => "RotatingFileHandler"

/-- A logger with its level, its handlers with theirs, and whether messages go on
to the loggers above it. -/
structure Logger where
  name : String
  level : Nat
  handlers : List (LogHandler × Nat)
  propagates : Bool

namespace Logger

/-- A logger that has not been set up. -/
def fresh (name : String) : Logger :=
  ⟨if name = "" then "root" else name, 0, [], true⟩

/-- Sets the level of a logger; its handlers are made the first time only and keep
the level of that time. The depth is that of the folders that can be made. -/
def configure (depth : Nat) (env : Environment) (l : Logger) : Except LogFault Logger := do
  let level ← env.logLevel
  if l.handlers = [] then
    let folder ← env.logFolder
    makeLogFolder depth folder
    if '\x00' ∈ l.name.toList then throw .nullByte
    let name := Text.ofString (logFileName l.name ++ ".log")
    let file := { folder with parts := folder.parts ++ [name] }
    if Folder.nameTooLong file.name then throw (.file file.text .nameTooLong)
    return { l with level := level, handlers := [(.stream, level), (.rollingFile file, level)],
                    propagates := false }
  else return { l with level := level }

/-- The files that a logger writes to. -/
def files (l : Logger) : List Path :=
  l.handlers.filterMap fun (handler, _) =>
    match handler with
    | .rollingFile path => some path
    | .stream => none

end Logger

end LSystems
