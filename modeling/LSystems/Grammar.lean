import LSystems.Json
import LSystems.Word

namespace LSystems

theorem fst_putEntry_subset {κ ν : Type} [BEq κ] [LawfulBEq κ] {key : κ} {value : ν}
    {table : List (κ × ν)} {k : κ} (h : k ∈ (putEntry key value table).map Prod.fst) :
    k = key ∨ k ∈ table.map Prod.fst := by
  induction table with
  | nil => simpa [putEntry] using h
  | cons entry rest ih =>
    simp only [putEntry] at h
    split at h
    next => exact Or.inr (by simpa using h)
    next =>
      rcases List.mem_cons.mp h with h | h
      · exact Or.inr (by simp [h])
      · exact (ih h).imp_right fun h => by simp [h]

theorem putEntry_keys_nodup {κ ν : Type} [BEq κ] [LawfulBEq κ] {key : κ} {value : ν}
    {table : List (κ × ν)} (h : (table.map Prod.fst).Nodup) :
    ((putEntry key value table).map Prod.fst).Nodup := by
  induction table with
  | nil => simp [putEntry]
  | cons entry rest ih =>
    have hc := List.nodup_cons.mp h
    simp only [putEntry]
    split
    next => simpa using h
    next hne =>
      refine List.nodup_cons.mpr ⟨fun hm => ?_, ih hc.2⟩
      rcases fst_putEntry_subset hm with he | hm
      · exact hne (beq_iff_eq.mpr he)
      · exact hc.1 hm

/-- A table has every key once. -/
theorem tableOf_keys_nodup {κ ν : Type} [BEq κ] [LawfulBEq κ] (entries : List (κ × ν)) :
    ((tableOf entries).map Prod.fst).Nodup := by
  suffices h : ∀ table : List (κ × ν), (table.map Prod.fst).Nodup →
      ((entries.foldl (fun table entry => putEntry entry.1 entry.2 table) table).map
        Prod.fst).Nodup from h [] (by simp)
  induction entries with
  | nil => exact fun _ h => h
  | cons entry rest ih => exact fun _ h => ih _ (putEntry_keys_nodup h)

theorem putEntry_of_not_mem {κ ν : Type} [BEq κ] [LawfulBEq κ] {key : κ} {value : ν}
    {table : List (κ × ν)} (h : key ∉ table.map Prod.fst) :
    putEntry key value table = table ++ [(key, value)] := by
  induction table with
  | nil => rfl
  | cons entry rest ih =>
    rw [List.map_cons, List.mem_cons, not_or] at h
    have other : ¬(entry.1 == key) = true := fun same => h.1 (beq_iff_eq.mp same).symm
    rw [putEntry, if_neg other, ih h.2]
    rfl

/-- Entries with distinct keys are their own table. -/
theorem tableOf_eq_self {κ ν : Type} [BEq κ] [LawfulBEq κ] {entries : List (κ × ν)}
    (distinct : (entries.map Prod.fst).Nodup) : tableOf entries = entries := by
  suffices h : ∀ table : List (κ × ν), ((table ++ entries).map Prod.fst).Nodup →
      entries.foldl (fun table entry => putEntry entry.1 entry.2 table) table = table ++ entries from
    h [] distinct
  clear distinct
  induction entries with
  | nil => simp
  | cons entry rest ih =>
    intro table distinct
    have new : entry.1 ∉ table.map Prod.fst := by
      rw [List.map_append, List.nodup_append] at distinct
      exact fun known => distinct.2.2 _ known _ List.mem_cons_self rfl
    rw [List.foldl_cons, putEntry_of_not_mem new, ih, List.append_assoc]
    · rfl
    · simpa using distinct

/-- Production rules in the order they were given, at most one for each symbol. -/
structure Grammar where
  rules : List (Symbol × Word)
  distinct : (rules.map Prod.fst).Nodup
deriving DecidableEq

/-- Why rules do not form a grammar. -/
inductive GrammarFault
  | symbolNotSingle (shown : String)
  | replacementNotText (symbol : Symbol) (kind : String)
  | noSeparator (rule : Word)
  | duplicate (symbol : Word)
deriving DecidableEq

/-- The text of a grammar fault. -/
def GrammarFault.message : GrammarFault → String
  | symbolNotSingle shown => "rule symbol must be a single character, got " ++ shown
  | replacementNotText symbol kind =>
    "replacement for " ++ quoted [symbol] ++ " must be a string, got " ++ kind
  | noSeparator rule => "rule " ++ quoted rule ++ " has no '=' or '->' separator"
  | duplicate symbol => "duplicate rule for " ++ quoted symbol

namespace Grammar

/-- The grammar of a list of rules; the last rule of a symbol wins. -/
def ofRules (rules : List (Symbol × Word)) : Grammar :=
  ⟨tableOf rules, tableOf_keys_nodup rules⟩

/-- The rule that a pair of values writes: a text of one symbol and a text. -/
def ruleOfValues (symbol replacement : Json) : Except GrammarFault (Symbol × Word) :=
  match symbol with
  | .text [c] =>
    match replacement with
    | .text w => .ok (c, w)
    | v => .error (.replacementNotText c v.kindName)
  | v => .error (.symbolNotSingle v.shown)

/-- The grammar of a table of values, or what is wrong with its first bad entry. -/
def ofValues (entries : List (Json × Json)) : Except GrammarFault Grammar :=
  (entries.mapM fun entry => ruleOfValues entry.1 entry.2).map ofRules

/-- The replacement of a symbol that has a rule. -/
def rule? (g : Grammar) (c : Symbol) : Option Word :=
  g.rules.lookup c

/-- The replacement of a symbol; one without a rule stays as it is. -/
def replacement (g : Grammar) (c : Symbol) : Word :=
  (g.rule? c).getD [c]

/-- The rule of a word, which has one only if it is a single symbol with a rule. -/
def entry? (g : Grammar) : Word → Option Word
  | [c] => g.rule? c
  | _ => none

/-- A word with every symbol replaced. -/
def rewrite (g : Grammar) (w : Word) : Word :=
  w.flatMap g.replacement

/-- The symbols that have a rule. -/
def ruleSymbols (g : Grammar) : List Symbol :=
  g.rules.map Prod.fst

/-- A grammar as messages show it. -/
def shown (g : Grammar) : String :=
  "Grammar(" ++ (Json.object (g.rules.map fun (c, w) => ([c], .text w))).shown ++ ")"

end Grammar

end LSystems
