namespace LSystems

/-- A code point: a character, or a surrogate by its place among them. A surrogate makes no
pair with another one, wherever it stands. -/
inductive Symbol
  | char (c : Char)
  | surrogate (place : Fin 2048)
deriving DecidableEq

instance : Coe Char Symbol := ⟨.char⟩

namespace Symbol

/-- The least of the surrogates. -/
def firstSurrogate : Nat := 0xD800

/-- The number of a code point. -/
def code : Symbol → Nat
  | char c => c.toNat
  | surrogate place => firstSurrogate + place

/-- The character that a code point is. -/
def char? : Symbol → Option Char
  | char c => some c
  | surrogate _ => none

/-- A code point in lower case. -/
def toLower : Symbol → Symbol
  | char c => char c.toLower
  | surrogate place => surrogate place

/-- The code point of a unit that makes no pair. -/
def ofUnit (unit : Nat) : Symbol :=
  if h : firstSurrogate ≤ unit ∧ unit - firstSurrogate < 2048 then .surrogate ⟨_, h.2⟩
  else .char (Char.ofNat unit)

end Symbol

/-- A sequence of code points. -/
abbrev Text := List Symbol

/-- A sequence of symbols. -/
abbrev Word := List Symbol

namespace Text

/-- The text of a string, which has characters only. -/
def ofString (s : String) : Text :=
  s.toList.map .char

/-- The string of a text that has characters only. -/
def string? (t : Text) : Option String :=
  (t.mapM Symbol.char?).map String.ofList

/-- Two strings with one text are the same. -/
@[simp]
theorem ofString_inj {s t : String} : ofString s = ofString t ↔ s = t :=
  (List.map_inj_right fun _ _ same => Symbol.char.inj same).trans String.toList_inj

@[simp]
theorem ofString_beq (s t : String) : (ofString s == ofString t) = (s == t) := by
  rw [Bool.eq_iff_iff, beq_iff_eq, beq_iff_eq, ofString_inj]

@[simp]
theorem ofString_append (s t : String) : ofString (s ++ t) = ofString s ++ ofString t := by
  rw [ofString, String.toList_append, List.map_append]
  rfl

end Text

instance : Coe String Text := ⟨Text.ofString⟩

end LSystems
