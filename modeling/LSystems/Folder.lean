import LSystems.Path

namespace LSystems

/-- A working folder: its files by the parts of their paths. The folders in it are
those that a file needs. -/
structure Folder where
  files : List (List Text × ByteArray)

/-- Where the parts of a path lead: to a folder by its place, to one outside the
working folder, to a file, to a name that is free in its folder, or nowhere. A free
name has a place unless its folder lies outside. -/
inductive Folder.Spot
  | folder (place : List Text)
  | outside
  | file (bytes : ByteArray)
  | free (place : Option (List Text))
  | refused (fault : FileFault)

namespace Folder

/-- The most bytes that one part of a path may have. -/
def maxNameBytes : Nat := 255

/-- The most bytes that a whole path may have. -/
def maxPathBytes : Nat := 4095

/-- Whether a part of a path is longer than a name may be. -/
def nameTooLong (part : Text) : Bool :=
  maxNameBytes < part.byteSize

/-- Whether a whole path is longer than a path may be. -/
def pathTooLong (p : Path) : Bool :=
  maxPathBytes < p.text.byteSize

/-- What stands at a place in the working folder. -/
def spotAt (f : Folder) (place : List Text) : Spot :=
  match f.files.find? (·.1 == place) with
  | some (_, bytes) => .file bytes
  | none =>
    if f.files.any fun (file, _) => place.isPrefixOf file then .folder place
    else .free (some place)

/-- Goes on from a spot by one part. A double dot goes one folder up, and nothing
is known of the names outside the working folder. -/
def step (f : Folder) (spot : Spot) (part : Text) : Spot :=
  match spot with
  | .refused fault => .refused fault
  | .file _ => .refused .notDirectory
  | .free _ => .refused .missing
  | .folder place =>
    if part = Text.ofString ".." then if place = [] then .outside else .folder place.dropLast
    else if nameTooLong part then .refused .nameTooLong
    else f.spotAt (place ++ [part])
  | .outside =>
    if part = Text.ofString ".." then .outside
    else if nameTooLong part then .refused .nameTooLong
    else .free none

/-- What a path leads to. -/
def spot (f : Folder) (p : Path) : Spot :=
  if pathTooLong p then .refused .nameTooLong
  else p.parts.foldl f.step (if p.root = "" then .folder [] else .outside)

/-- The bytes of the file at a path. -/
def read (f : Folder) (p : Path) : Except FileFault ByteArray :=
  match f.spot p with
  | .file bytes => .ok bytes
  | .folder _ | .outside => .error .directory
  | .free _ => .error .missing
  | .refused fault => .error fault

/-- Whether a file can be written at a path. -/
def canWrite (f : Folder) (p : Path) : Bool :=
  match f.spot p with
  | .file _ | .free _ => true
  | .folder _ | .outside | .refused _ => false

/-- The place of a path at which a file can be made anew in the working folder. -/
def freePlace? (f : Folder) (p : Path) : Option (List Text) :=
  match f.spot p with
  | .free place => place
  | _ => none

end Folder

end LSystems
