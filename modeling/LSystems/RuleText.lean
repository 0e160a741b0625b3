import LSystems.Blank
import LSystems.Grammar

namespace LSystems

/-- The parts of a word before and after the first place where a separator stands. -/
def cutAt? (separator : Word) : Word → Option (Word × Word)
  | [] => if separator = [] then some ([], []) else none
  | c :: rest =>
    if separator.isPrefixOf (c :: rest) then some ([], (c :: rest).drop separator.length)
    else (cutAt? separator rest).map fun (before, after) => (c :: before, after)

/-- The arrow between the sides of a rule. -/
abbrev ruleArrow : Word := ['-', '>']

/-- The arrow, which is looked for in the whole rule before the equals sign is. -/
def ruleSeparators : List Word := [ruleArrow, ['=']]

/-- The two sides of a rule text, without the blanks around them. -/
def ruleSides (rule : Word) : Except GrammarFault (Word × Word) :=
  match ruleSeparators.findSome? (cutAt? · rule) with
  | some (left, right) => .ok (Text.strip left, Text.strip right)
  | none => .error (.noSeparator rule)

/-- The sides of rule texts after some that have been read; no left side comes twice. -/
def ruleTableAfter (table : List (Word × Word)) :
    List Word → Except GrammarFault (List (Word × Word))
  | [] => .ok table
  | rule :: rest =>
    match ruleSides rule with
    | .error e => .error e
    | .ok (left, right) =>
      if left ∈ table.map Prod.fst then .error (.duplicate left)
      else ruleTableAfter (table ++ [(left, right)]) rest

/-- The grammar of rule texts such as `F=F+F` or `F->F+F`. -/
def Grammar.ofTexts (rules : List Word) : Except GrammarFault Grammar := do
  let table ← ruleTableAfter [] rules
  Grammar.ofValues (table.map fun (left, right) => (.text left, .text right))

end LSystems
