import LSystems.Quoted

namespace LSystems

/-- A file path in normal form: its leading slashes and its parts, none of them
empty or a single dot. -/
structure Path where
  root : String
  parts : List Text
deriving DecidableEq

/-- The parts between the slashes of a text, the one being read last. -/
def splitSlashes : Text → List Text
  | [] => [[]]
  | .char '/' :: rest => [] :: splitSlashes rest
  | c :: rest =>
    match splitSlashes rest with
    | part :: parts => (c :: part) :: parts
    | [] => [[c]]

namespace Path

/-- The path that a text names. Exactly two leading slashes stay two, and any other
number is one. -/
def ofText (text : Text) : Path :=
  let leading := (text.takeWhile (· == .char '/')).length
  let root := if leading = 0 then "" else if leading = 2 then "//" else "/"
  ⟨root, (splitSlashes text).filter fun part => part ≠ [] ∧ part ≠ [.char '.']⟩

/-- The text of a path; the path of no parts is a dot. -/
def text (p : Path) : Text :=
  if p.parts = [] ∧ p.root = "" then "."
  else Text.ofString p.root ++ List.intercalate [.char '/'] p.parts

/-- The last part. -/
def name (p : Path) : Text :=
  p.parts.getLast?.getD []

/-- The last part without its ending. A dot at its start or end begins no ending. -/
def stem (p : Path) : Text :=
  let after := (p.name.reverse.takeWhile (· != .char '.')).length
  let before := p.name.length - after - 1
  if 0 < before ∧ 0 < after ∧ after < p.name.length then p.name.take before else p.name

/-- The ending by which the format of a picture is told: what follows the last dot
of the text, or all of it when there is none, in lower case. -/
def ending (p : Path) : Text :=
  ((p.text.reverse.takeWhile (· != .char '.')).reverse).map Symbol.toLower

/-- The parts of a path from the working folder once its double dots are worked off;
none when it leaves that folder. -/
def resolved? (p : Path) : Option (List Text) :=
  if p.root ≠ "" then none
  else
    p.parts.foldlM (fun place part =>
      if part ≠ Text.ofString ".." then some (place ++ [part])
      else if place = [] then none
      else some place.dropLast) []

end Path

/-- Why no file can have a path for its name: it has no bytes, or holds the null character. -/
inductive NameFault
  | encoding (fault : EncodingFault)
  | nullByte
deriving DecidableEq

/-- The text of a name fault. -/
def NameFault.message : NameFault → String
  | encoding fault => fault.message
  | nullByte => "embedded null byte"

/-- The surrogates that stand in a name for its bytes that make up no character. -/
def Symbol.isByte : Symbol → Bool
  | char _ => false
  | surrogate place => 0x480 ≤ place.val && place.val < 0x500

/-- How many bytes stand for a text in a name; a surrogate stands for one. -/
def Text.byteSize (t : Text) : Nat :=
  t.foldl (fun size s => size + (s.char?.map Char.utf8Size).getD 1) 0

/-- What is wrong with a path as a name. -/
def Path.nameFault? (p : Path) : Option NameFault :=
  match p.text.encodingFault? Symbol.isByte with
  | some fault => some (.encoding fault)
  | none => if .char '\x00' ∈ p.text then some .nullByte else none

/-- Why a path names no file that can be read. -/
inductive FileFault
  | missing
  | directory
  | notDirectory
  | nameTooLong
deriving DecidableEq

/-- What a file fault says. -/
def FileFault.reason : FileFault → String
  | missing => "[Errno 2] No such file or directory"
  | directory => "[Errno 21] Is a directory"
  | notDirectory => "[Errno 20] Not a directory"
  | nameTooLong => "[Errno 36] File name too long"

/-- The text of a file fault at a path. -/
def FileFault.message (path : Text) (fault : FileFault) : String :=
  fault.reason ++ ": " ++ quoted path

end LSystems
