import LSystems.JsonTokens

namespace LSystems

/-- Why a text is not read as a JSON value: it is malformed, a whole number has too
many digits, or an array or object stands too deep in others. -/
inductive JsonFault
  | invalid
  | tooLong (digits : Nat)
  | tooDeep (container : String)
deriving DecidableEq

/-- An open part of a JSON text: an array with the items so far, last first, an
object with its members so far, or a member whose value is to come. -/
inductive JsonPart
  | array (items : List Json)
  | object (members : List (Text × Json))
  | member (key : Text)

/-- What may come next in a JSON text. -/
inductive JsonPlace
  | value
  | firstItem
  | firstKey
  | key
  | colon (key : Text)
  | afterValue
  | finished (value : Json)

/-- How many arrays and objects are open. -/
def jsonDepth (parts : List JsonPart) : Nat :=
  parts.countP fun
    | .member _ => false
    | _ => true

/-- Hands a complete value to the innermost open part. -/
def deliver (v : Json) : List JsonPart → JsonPlace × List JsonPart
  | .array items :: parts => (.afterValue, .array (v :: items) :: parts)
  | .member key :: .object members :: parts =>
    (.afterValue, .object (putEntry key v members) :: parts)
  | parts => (.finished v, parts)

section

-- The most arrays and objects that may be open at once, as far as the surroundings of the
-- reader leave room for them.
variable (depth : Nat)

/-- The value that a token starts, or the part that it opens. -/
def beginValue (token : JsonToken) (parts : List JsonPart) :
    Except JsonFault (JsonPlace × List JsonPart) :=
  match token with
  | .atom v => .ok (deliver v parts)
  | .text s => .ok (deliver (.text s) parts)
  | .openArray =>
    if depth ≤ jsonDepth parts then .error (.tooDeep "array")
    else .ok (.firstItem, .array [] :: parts)
  | .openObject =>
    if depth ≤ jsonDepth parts then .error (.tooDeep "object")
    else .ok (.firstKey, .object [] :: parts)
  | .tooLong digits => .error (.tooLong digits)
  | _ => .error .invalid

/-- Closes the innermost open part at a bracket, or goes on after a comma. -/
def continueParts (token : JsonToken) (parts : List JsonPart) :
    Except JsonFault (JsonPlace × List JsonPart) :=
  match token, parts with
  | .comma, .array _ :: _ => .ok (.value, parts)
  | .comma, .object _ :: _ => .ok (.key, parts)
  | .closeArray, .array items :: rest => .ok (deliver (.array items.reverse) rest)
  | .closeObject, .object members :: rest => .ok (deliver (.object members) rest)
  | _, _ => .error .invalid

/-- Where a reader stands after one more token. -/
def nextPlace (place : JsonPlace) (token : JsonToken) (parts : List JsonPart) :
    Except JsonFault (JsonPlace × List JsonPart) :=
  match place, token, parts with
  | .value, _, _ => beginValue depth token parts
  | .firstItem, .closeArray, .array _ :: rest => .ok (deliver (.array []) rest)
  | .firstItem, _, _ => beginValue depth token parts
  | .firstKey, .closeObject, .object _ :: rest => .ok (deliver (.object []) rest)
  | .firstKey, .text s, _ => .ok (.colon s, parts)
  | .key, .text s, _ => .ok (.colon s, parts)
  | .colon key, .colon, _ => .ok (.value, .member key :: parts)
  | .afterValue, _, _ => continueParts token parts
  | _, _, _ => .error .invalid

/-- The value whose remaining tokens are given. -/
def buildJson : JsonPlace → List JsonPart → List JsonToken → Except JsonFault Json
  | .finished v, _, [] => .ok v
  | _, _, [] => .error .invalid
  | place, parts, token :: tokens =>
    match nextPlace depth place token parts with
    | .ok (place, parts) => buildJson place parts tokens
    | .error e => .error e

/-- The value that a JSON text writes. -/
def readJson (text : String) : Except JsonFault Json :=
  buildJson depth .value [] (jsonTokens text.toList)

end

end LSystems
