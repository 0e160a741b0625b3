import LSystems.Quoted
import LSystems.ShortestDecimal

namespace LSystems

/-- A value of the JSON data format; whole numbers are kept apart from the others,
and the members of an object stand in the order of their first occurrence. -/
inductive Json
  | null
  | bool (value : Bool)
  | int (value : Int)
  | float (value : Float)
  | text (value : Text)
  | array (items : List Json)
  | object (members : List (Text × Json))

namespace Json

/-- The name of the kind of a value in messages. -/
def kindName : Json → String
  | null => "NoneType"
  | bool _ => "bool"
  | int _ => "int"
  | float _ => "float"
  | text _ => "str"
  | array _ => "list"
  | object _ => "dict"

mutual

/-- A value as messages show it. -/
def shown : Json → String
  | null => "None"
  | bool true => "True"
  | bool false => "False"
  | int n => toString n
  | float x => floatText x
  | text s => quoted s
  | array items => "[" ++ String.intercalate ", " (shownItems items) ++ "]"
  | object members => "\x7b" ++ String.intercalate ", " (shownMembers members) ++ "\x7d"

/-- The items of an array as messages show them. -/
def shownItems : List Json → List String
  | [] => []
  | v :: rest => shown v :: shownItems rest

/-- The members of an object as messages show them. -/
def shownMembers : List (Text × Json) → List String
  | [] => []
  | (k, v) :: rest => (quoted k ++ ": " ++ shown v) :: shownMembers rest

end

/-- The value of a member of an object. -/
def get? : Json → String → Option Json
  | object members, key => members.lookup (Text.ofString key)
  | _, _ => none

end Json

/-- Puts an entry into an ordered table: a key that is there keeps its place and
takes the new value. -/
def putEntry {κ ν : Type} [BEq κ] (key : κ) (value : ν) : List (κ × ν) → List (κ × ν)
  | [] => [(key, value)]
  | (k, v) :: rest => if k == key then (k, value) :: rest else (k, v) :: putEntry key value rest

/-- The ordered table of a list of entries; the last value of a repeated key wins. -/
def tableOf {κ ν : Type} [BEq κ] (entries : List (κ × ν)) : List (κ × ν) :=
  entries.foldl (fun table entry => putEntry entry.1 entry.2 table) []

end LSystems
