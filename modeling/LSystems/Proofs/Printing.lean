import LSystems.Commands
import Mathlib.Data.List.TakeWhile
import Mathlib.Data.Nat.Digits.Defs

namespace LSystems

/-- The character that begins a terminal sequence. -/
def escapeMark : Char := '\x1b'

namespace Text

/-- A text that any output can show: its code points are characters, and none of them begins a
terminal sequence. -/
def Plain (t : Text) : Prop :=
  ∀ s ∈ t, s.char? ≠ none ∧ s ≠ .char escapeMark

instance (t : Text) : Decidable t.Plain :=
  inferInstanceAs (Decidable (∀ s ∈ t, s.char? ≠ none ∧ s ≠ .char escapeMark))

theorem plain_append {t u : Text} : Plain (t ++ u) ↔ Plain t ∧ Plain u :=
  List.forall_mem_append

theorem plain_ofString {s : String} (unmarked : escapeMark ∉ s.toList) : Plain (ofString s) := by
  intro symbol mem
  obtain ⟨c, inside, rfl⟩ := List.mem_map.mp mem
  refine ⟨nofun, ?_⟩
  rintro ⟨⟩
  exact unmarked inside

theorem plain_toString (n : Nat) : Plain (ofString (toString n)) := by
  apply plain_ofString
  rw [Nat.toString_eq_ofList_toDigits, String.toList_ofList]
  intro mem
  have digit : escapeMark.isDigit = true := Nat.isDigit_of_mem_toDigits (by decide) (by decide) mem
  exact absurd digit (by decide)

end Text

/-- An output of bytes takes what has characters only. -/
theorem echoed_of_plain {line : Text} (plain : line.Plain) : echoed line = .ok line := by
  have all : line.takeWhile (fun s => s.char?.isSome || false) = line := by
    apply List.takeWhile_eq_self_iff.mpr
    intro s mem
    simpa using Option.isSome_iff_ne_none.mpr (plain s mem).1
  unfold echoed Text.encodingFault?
  dsimp only
  rw [all, List.drop_length]

theorem plain_writtenLine (n : Nat) {name : Text} {output : Path} (named : name.Plain)
    (placed : output.text.Plain) : (writtenLine (some n) name output).Plain := by
  have before : Text.Plain (Text.ofString "Wrote generation ") := by decide
  have between : Text.Plain (Text.ofString " of ") := by decide
  have after : Text.Plain (Text.ofString " to ") := by decide
  unfold writtenLine
  simp only [Text.ofString_append, Text.plain_append]
  exact ⟨⟨⟨⟨⟨before, Text.plain_toString n⟩, between⟩, named⟩, after⟩, placed⟩

namespace Surroundings

/-- Plain text is printed as it is, whether or not it goes to a terminal. -/
def PrintsPlain (around : Surroundings) : Prop :=
  ∀ line : Text, line.Plain → around.echo line = .ok line

variable {around : Surroundings} {lines : List Text} {k : Nat}

/-- What has been printed at some place is what the output makes of the line there. -/
theorem echo_of_getElem?_print {text : Text} (printed : (around.print lines).1[k]? = some text) :
    ∃ line, lines[k]? = some line ∧ around.echo line = .ok text := by
  induction lines generalizing k with
  | nil => cases printed
  | cons line rest ih =>
    unfold print at printed
    split at printed
    next => cases printed
    next shown echoed =>
      cases k with
      | zero =>
        cases printed
        exact ⟨line, rfl, echoed⟩
      | succ k => exact ih printed

/-- Lines are printed to their end or up to one that the output refuses. -/
theorem print_ends (around : Surroundings) (lines : List Text) :
    ((around.print lines).2 = none ∧ (around.print lines).1.length = lines.length) ∨
    ∃ line fault, (around.print lines).2 = some fault ∧
      lines[(around.print lines).1.length]? = some line ∧ around.echo line = .error fault := by
  induction lines with
  | nil => exact .inl ⟨rfl, rfl⟩
  | cons line rest ih =>
    unfold print
    split
    next fault refused => exact .inr ⟨line, fault, rfl, rfl, refused⟩
    next =>
      obtain ⟨ended, all⟩ | ⟨line', fault, ended, there, refused⟩ := ih
      · exact .inl ⟨ended, congrArg (· + 1) all⟩
      · exact .inr ⟨line', fault, ended, there, refused⟩

/-- As long as the output shows lines as they are, these are the printed ones. -/
theorem getElem?_print_of_shown (shown : ∀ line ∈ lines.take (k + 1), around.echo line = .ok line) :
    (around.print lines).1[k]? = lines[k]? := by
  induction lines generalizing k with
  | nil => rfl
  | cons line rest ih =>
    rw [List.take_succ_cons] at shown
    unfold print
    rw [shown line List.mem_cons_self]
    cases k with
    | zero => rfl
    | succ k => exact ih fun line mem => shown line (List.mem_cons_of_mem _ mem)

theorem printing_of_all (ended : (around.print lines).2 = none) :
    around.printing lines = { Outcome.success with lines := (around.print lines).1 } := by
  unfold printing
  dsimp only
  rw [ended]

theorem printing_of_refused {fault : HostFault} (ended : (around.print lines).2 = some fault) :
    around.printing lines
      = { Outcome.broke (.host fault) with lines := (around.print lines).1 } := by
  unfold printing
  dsimp only
  rw [ended]

theorem printing_lines (around : Surroundings) (lines : List Text) :
    (around.printing lines).lines = (around.print lines).1 := by
  cases ended : (around.print lines).2 with
  | none => rw [printing_of_all ended]
  | some fault => rw [printing_of_refused ended]

/-- A command ends well if all its lines are printed, and breaks off at the first other one. -/
theorem printing_ends (around : Surroundings) (lines : List Text) :
    let left := around.printing lines
    (left.exit = 0 ∧ left.broken = none ∧ left.lines.length = lines.length) ∨
    ∃ line fault, left.exit = 1 ∧ left.broken = some (.host fault) ∧
      lines[left.lines.length]? = some line ∧ around.echo line = .error fault := by
  intro left
  obtain ⟨ended, all⟩ | ⟨line, fault, ended, there, refused⟩ := around.print_ends lines
  · have printed : left = _ := printing_of_all ended
    rw [printed]
    exact .inl ⟨rfl, rfl, all⟩
  · have printed : left = _ := printing_of_refused ended
    rw [printed]
    exact .inr ⟨line, fault, rfl, rfl, there, refused⟩

/-- A single line is printed or breaks off the command. -/
theorem printing_singleton (around : Surroundings) (line : Text) :
    let left := around.printing [line]
    (∃ shown, around.echo line = .ok shown ∧ left.lines = [shown] ∧ left.exit = 0 ∧
      left.broken = none) ∨
    ∃ fault, around.echo line = .error fault ∧ left.lines = [] ∧ left.exit = 1 ∧
      left.broken = some (.host fault) := by
  unfold printing print
  cases around.echo line with
  | ok shown => exact .inl ⟨shown, rfl, rfl, rfl, rfl⟩
  | error fault => exact .inr ⟨fault, rfl, rfl, rfl, rfl⟩

theorem printing_failed (around : Surroundings) (lines : List Text) :
    (around.printing lines).failed = none := by
  cases ended : (around.print lines).2 with
  | none => rw [printing_of_all ended]; rfl
  | some fault => rw [printing_of_refused ended]; rfl

theorem printing_emptied (around : Surroundings) (lines : List Text) :
    (around.printing lines).emptied = none := by
  cases ended : (around.print lines).2 with
  | none => rw [printing_of_all ended]; rfl
  | some fault => rw [printing_of_refused ended]; rfl

/-- Surroundings with nothing set, in which every path names one file, every canvas and picture can
be made, and lines are printed as far as they have bytes. -/
def ofFile (depth : Nat) (bytes : ByteArray) : Surroundings where
  env := fun _ => none
  read := fun _ => .ok bytes
  depth := depth
  canvas := fun size => .ok (.ofInt size.1, .ofInt size.2)
  window := fun _ => .ok ()
  save := fun _ => .written
  echo := echoed

theorem printsPlain_ofFile (depth : Nat) (bytes : ByteArray) : (ofFile depth bytes).PrintsPlain :=
  fun _ => echoed_of_plain

end Surroundings

end LSystems
