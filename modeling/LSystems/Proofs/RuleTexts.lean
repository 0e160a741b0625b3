import LSystems.Proofs.DefinitionContent
import LSystems.RuleText
import Mathlib.Data.List.DropRight
import Mathlib.Data.List.Nodup

namespace LSystems

section
variable {σ : Type} {p : σ → Bool}

/-- What is in a class around a text is taken off. -/
theorem stripWhere_append {before after : List σ} (first : ∀ c ∈ before, p c = true)
    (last : ∀ c ∈ after, p c = true) (text : List σ) :
    stripWhere p (before ++ text ++ after) = stripWhere p text := by
  have inside : ((text ++ after).dropWhile p).reverse.dropWhile p
      = (text.dropWhile p).reverse.dropWhile p := by
    have taken : ∀ c ∈ after.reverse, p c = true := fun c mem => last c (List.mem_reverse.mp mem)
    rw [List.dropWhile_append]
    split
    next none =>
      have nothing : after.dropWhile p = [] := List.dropWhile_eq_nil_iff.mpr last
      rw [nothing, List.isEmpty_iff.mp none]
    next => rw [List.reverse_append, List.dropWhile_append_of_pos taken]
  unfold stripWhere
  rw [List.append_assoc, List.dropWhile_append_of_pos first, inside]

/-- A text that begins outside a class keeps its beginning. -/
theorem stripWhere_cons {c : σ} (other : p c = false) (text : List σ) :
    stripWhere p (c :: text) = c :: text.rdropWhile p := by
  have begun : (c :: text).dropWhile p = c :: text := List.dropWhile_cons_of_neg (by simp [other])
  unfold stripWhere List.rdropWhile
  rw [begun, List.reverse_cons, List.dropWhile_append]
  split
  next none =>
    rw [List.isEmpty_iff.mp none, List.dropWhile_cons_of_neg (by simp [other])]
    rfl
  next => simp

theorem dropWhile_eq_self {text : List σ} (head : ∀ c ∈ text.head?, p c = false) :
    text.dropWhile p = text := by
  cases text with
  | nil => rfl
  | cons c rest =>
    have other := head c rfl
    exact List.dropWhile_cons_of_neg (by simp [other])

theorem stripWhere_eq_self {text : List σ} (head : ∀ c ∈ text.head?, p c = false)
    (last : ∀ c ∈ text.getLast?, p c = false) : stripWhere p text = text := by
  have tail : ∀ c ∈ text.reverse.head?, p c = false := by
    rw [List.head?_reverse]
    exact last
  unfold stripWhere
  rw [dropWhile_eq_self head, dropWhile_eq_self tail, List.reverse_reverse]

end

section
variable {separator rest : Word}

theorem cutAt?_append_self (nonempty : separator ≠ []) :
    cutAt? separator (separator ++ rest) = some ([], rest) := by
  obtain ⟨first, others, rfl⟩ := List.exists_cons_of_ne_nil nonempty
  have found : (first :: others).isPrefixOf (first :: (others ++ rest)) = true :=
    List.isPrefixOf_iff_prefix.mpr (List.prefix_append _ _)
  rw [List.cons_append, cutAt?, if_pos found]
  simp

theorem cutAt?_cons_of_elsewhere {c : Symbol} (elsewhere : ¬separator <+: c :: rest) :
    cutAt? separator (c :: rest)
      = (cutAt? separator rest).map fun (before, after) => (c :: before, after) := by
  rw [cutAt?, if_neg]
  rwa [List.isPrefixOf_iff_prefix]

/-- What has not the first character of a separator lies before it. -/
theorem cutAt?_append_of_not_mem {first : Symbol} {passed : Word} (other : first ∉ passed) :
    cutAt? (first :: separator) (passed ++ rest)
      = (cutAt? (first :: separator) rest).map
          fun (before, after) => (passed ++ before, after) := by
  induction passed with
  | nil => simp
  | cons c passed ih =>
    rw [List.mem_cons, not_or] at other
    have elsewhere : ¬first :: separator <+: c :: (passed ++ rest) := by
      rw [List.cons_prefix_cons]
      exact fun found => other.1 found.1
    rw [List.cons_append, cutAt?_cons_of_elsewhere elsewhere, ih other.2, Option.map_map]
    rfl

/-- A word is cut unless the separator stands nowhere in it. -/
theorem cutAt?_eq_none_iff : cutAt? separator rest = none ↔ ¬separator <:+: rest := by
  induction rest with
  | nil => simp [cutAt?]
  | cons c rest ih =>
    rw [List.infix_cons_iff, not_or]
    by_cases here : separator <+: c :: rest
    · rw [cutAt?, if_pos (List.isPrefixOf_iff_prefix.mpr here)]
      simp [here]
    · rw [cutAt?_cons_of_elsewhere here, Option.map_eq_none_iff, ih]
      simp [here]

end

theorem strip_singleton {c : Symbol} (plain : c.isBlank = false) : Text.strip [c] = [c] :=
  stripWhere_eq_self (by simpa using plain) (by simpa using plain)

theorem not_mem_of_blank {blanks : Word} (blank : ∀ c ∈ blanks, c.isBlank = true) {c : Symbol}
    (plain : c.isBlank = false) : c ∉ blanks := by
  intro mem
  cases plain.symm.trans (blank c mem)

section
variable {symbol : Symbol} {indent gap rest : Word}

/-- The first arrow of a rule with one symbol before it is the one after that symbol, even where
the symbol is a part of an arrow. -/
theorem cutAt?_arrow (indented : ∀ c ∈ indent, c.isBlank = true)
    (spaced : ∀ c ∈ gap, c.isBlank = true) :
    cutAt? ruleArrow (indent ++ symbol :: (gap ++ .char '-' :: .char '>' :: rest))
      = some (indent ++ symbol :: gap, rest) := by
  have head : .char '-' ∉ indent := not_mem_of_blank indented (by decide)
  have middle : .char '-' ∉ gap := not_mem_of_blank spaced (by decide)
  have elsewhere : ¬ruleArrow <+: symbol :: (gap ++ .char '-' :: .char '>' :: rest) := by
    rw [List.cons_prefix_cons]
    rintro ⟨-, next⟩
    cases gap with
    | nil => simp at next
    | cons c gap =>
      obtain ⟨rfl, -⟩ := List.cons_prefix_cons.mp next
      cases (spaced _ List.mem_cons_self : Symbol.isBlank '>' = true)
  have found : cutAt? ruleArrow (.char '-' :: .char '>' :: rest) = some ([], rest) :=
    cutAt?_append_self (by simp)
  rw [cutAt?_append_of_not_mem head, cutAt?_cons_of_elsewhere elsewhere,
    cutAt?_append_of_not_mem middle, found]
  simp

theorem ruleSides_arrow (plain : symbol.isBlank = false)
    (indented : ∀ c ∈ indent, c.isBlank = true) (spaced : ∀ c ∈ gap, c.isBlank = true) :
    ruleSides (indent ++ symbol :: (gap ++ .char '-' :: .char '>' :: rest))
      = .ok ([symbol], Text.strip rest) := by
  have left : Text.strip (indent ++ symbol :: gap) = [symbol] := by
    have around := stripWhere_append indented spaced [symbol]
    rw [List.append_assoc] at around
    exact around.trans (strip_singleton plain)
  unfold ruleSides ruleSeparators
  rw [List.findSome?_cons, cutAt?_arrow indented spaced]
  dsimp only
  rw [left]

/-- The arrow of a rule with an equals sign after its symbol, if there is one, stands after that. -/
theorem cutAt?_arrow_equals : cutAt? ruleArrow (symbol :: .char '=' :: rest)
    = (cutAt? ruleArrow rest).map fun (before, after) => (symbol :: .char '=' :: before, after) := by
  have elsewhere : ¬ruleArrow <+: symbol :: .char '=' :: rest := by simp [List.cons_prefix_cons]
  have elsewhere' : ¬ruleArrow <+: .char '=' :: rest := by simp [List.cons_prefix_cons]
  rw [cutAt?_cons_of_elsewhere elsewhere, cutAt?_cons_of_elsewhere elsewhere', Option.map_map]
  rfl

/-- An arrow cuts a rule although an equals sign stands before it. -/
theorem ruleSides_equals_of_arrow (plain : symbol.isBlank = false) (arrow : ruleArrow <:+: rest) :
    ∃ left right, ruleSides (symbol :: .char '=' :: rest) = .ok (left, right) ∧ 2 ≤ left.length := by
  have cut : cutAt? ruleArrow rest ≠ none := fun none => cutAt?_eq_none_iff.mp none arrow
  obtain ⟨⟨before, after⟩, found⟩ := Option.ne_none_iff_exists'.mp cut
  have nonblank : (.char '=' :: before).rdropWhile Symbol.isBlank ≠ [] := by
    rw [ne_eq, List.rdropWhile_eq_nil_iff]
    intro blank
    cases blank '=' List.mem_cons_self
  refine ⟨Text.strip (symbol :: .char '=' :: before), Text.strip after, ?_, ?_⟩
  · unfold ruleSides ruleSeparators
    rw [List.findSome?_cons, cutAt?_arrow_equals, found]
    rfl
  · unfold Text.strip
    rw [stripWhere_cons plain, List.length_cons]
    exact Nat.succ_le_succ (List.length_pos_iff.mpr nonblank)

/-- Without an arrow the first equals sign cuts a rule, the symbol itself if it is one. -/
theorem ruleSides_equals (plain : symbol.isBlank = false) (noArrow : ¬ruleArrow <:+: rest) :
    ruleSides (symbol :: .char '=' :: rest)
      = .ok (if symbol = '=' then ([], Text.strip (.char '=' :: rest))
          else ([symbol], Text.strip rest)) := by
  unfold ruleSides ruleSeparators
  rw [List.findSome?_cons, cutAt?_arrow_equals, cutAt?_eq_none_iff.mpr noArrow, Option.map_none,
    List.findSome?_cons]
  by_cases same : symbol = '='
  · have found : cutAt? [.char '='] (symbol :: .char '=' :: rest) = some ([], .char '=' :: rest) := by
      rw [same]
      exact cutAt?_append_self (by simp)
    rw [found, if_pos same]
    rfl
  · have found : cutAt? [.char '='] (symbol :: .char '=' :: rest) = some ([symbol], rest) := by
      have onward : ¬[.char '='] <+: symbol :: .char '=' :: rest := by
        rw [List.cons_prefix_cons]
        exact fun here => same here.1.symm
      have here : cutAt? [.char '='] (.char '=' :: rest) = some ([], rest) :=
        cutAt?_append_self (by simp)
      rw [cutAt?_cons_of_elsewhere onward, here]
      rfl
    rw [found, if_neg same]
    dsimp only
    rw [strip_singleton plain]

end

namespace Grammar

section
variable {text left right : Word}

/-- Rule texts with one symbol each on their left sides give the grammar of the sides. -/
theorem ofTexts_of_table {texts : List Word} {rules : List (Symbol × Word)}
    (read : ruleTableAfter [] texts = .ok (rules.map fun rule => ([rule.1], rule.2))) :
    ofTexts texts = .ok (.ofRules rules) := by
  have members : (rules.map fun rule => (([rule.1] : Word), rule.2)).map (fun sides =>
        ((.text sides.1, .text sides.2) : Json × Json))
      = (ruleMembers rules).map fun member => (.text member.1, member.2) := by
    unfold ruleMembers
    rw [List.map_map, List.map_map]
    refine List.map_congr_left fun rule _ => ?_
    simp
  have made := ofValues_eq_ok_iff.mpr ⟨rules, rfl, rfl⟩
  rw [← members] at made
  unfold ofTexts
  rw [read]
  exact made

theorem ofTexts_of_error {texts : List Word} {fault : GrammarFault}
    (refused : ruleTableAfter [] texts = .error fault) : ofTexts texts = .error fault := by
  unfold ofTexts
  rw [refused]
  rfl

theorem ruleTableAfter_singleton (sides : ruleSides text = .ok (left, right)) :
    ruleTableAfter [] [text] = .ok [(left, right)] := by
  unfold ruleTableAfter
  rw [sides]
  rfl

/-- A rule whose left side is not one symbol is refused with that side. -/
theorem ofTexts_of_not_single (sides : ruleSides text = .ok (left, right))
    (other : left.length ≠ 1) : ofTexts [text] = .error (.symbolNotSingle (quoted left)) := by
  have refused : ruleOfValues (.text left) (.text right)
      = .error (.symbolNotSingle (quoted left)) := by
    unfold ruleOfValues
    split
    next c single =>
      cases single
      cases other rfl
    next => rfl
  unfold ofTexts ofValues
  rw [ruleTableAfter_singleton sides]
  show Except.map _ (List.mapM _ [_]) = _
  rw [List.mapM_cons, refused]
  rfl

end

/-- A rule with an arrow after its symbol is always read. One with an equals sign there is the same
rule, unless the symbol is itself that sign or an arrow stands in the replacement: then the left
side is not one symbol, and the rule is refused. -/
theorem rule_forms_agree {symbol : Symbol} (plain : symbol.isBlank = false) (replacement : Word) :
    let byArrow := ofTexts [symbol :: .char '-' :: .char '>' :: replacement]
    let byEquals := ofTexts [symbol :: .char '=' :: replacement]
    byArrow = .ok (.ofRules [(symbol, Text.strip replacement)]) ∧
    ((∃ g, byEquals = .ok g) ↔ symbol ≠ '=' ∧ ¬ruleArrow <:+: replacement) ∧
    (∀ g, byEquals = .ok g → byArrow = .ok g ∧ g.rule? symbol = some (Text.strip replacement)) ∧
    ∀ fault, byEquals = .error fault →
      ∃ left : Word, left.length ≠ 1 ∧ fault = .symbolNotSingle (quoted left) := by
  intro byArrow byEquals
  have read {text : Word} (sides : ruleSides text = .ok ([symbol], Text.strip replacement)) :
      ofTexts [text] = .ok (.ofRules [(symbol, Text.strip replacement)]) :=
    ofTexts_of_table (ruleTableAfter_singleton sides)
  have arrow : byArrow = .ok (.ofRules [(symbol, Text.strip replacement)]) :=
    read (@ruleSides_arrow symbol [] [] replacement plain (by simp) (by simp))
  refine ⟨arrow, ?_⟩
  by_cases simple : symbol ≠ '=' ∧ ¬ruleArrow <:+: replacement
  · have equals : byEquals = .ok (.ofRules [(symbol, Text.strip replacement)]) := by
      have sides := ruleSides_equals plain simple.2
      rw [if_neg simple.1] at sides
      exact read sides
    rw [arrow, equals]
    refine ⟨iff_of_true ⟨_, rfl⟩ simple, ?_, nofun⟩
    rintro g ⟨⟩
    exact ⟨rfl, List.lookup_cons_self⟩
  · have refused : ∃ left : Word, left.length ≠ 1 ∧
        byEquals = .error (.symbolNotSingle (quoted left)) := by
      by_cases within : ruleArrow <:+: replacement
      · obtain ⟨left, right, sides, long⟩ := ruleSides_equals_of_arrow plain within
        have other : left.length ≠ 1 := by omega
        exact ⟨left, other, ofTexts_of_not_single sides other⟩
      · have same : symbol = '=' := by_contra fun other => simple ⟨other, within⟩
        have sides := ruleSides_equals plain within
        rw [if_pos same] at sides
        exact ⟨[], nofun, ofTexts_of_not_single sides nofun⟩
    obtain ⟨left, other, refused⟩ := refused
    rw [refused]
    refine ⟨iff_of_false nofun simple, nofun, ?_⟩
    rintro fault ⟨⟩
    exact ⟨left, other, rfl⟩

/-- The turn to the left may be a symbol, and half an arrow may stand in its replacement. -/
theorem turn_rule_forms_agree :
    let replacement : Word := ['>', '=', 'F', ' ']
    let g := ofRules [('-', ['>', '=', 'F'])]
    Symbol.isBlank '-' = false ∧
      ofTexts [.char '-' :: .char '-' :: .char '>' :: replacement] = .ok g ∧
      ofTexts [.char '-' :: .char '=' :: replacement] = .ok g ∧
      g.rule? '-' = some (['>', '=', 'F'] : Word) ∧
      ∃ left : Word, left.length ≠ 1 ∧
        ofTexts [.char '-' :: .char '=' :: ruleArrow] = .error (.symbolNotSingle (quoted left)) := by
  intro replacement g
  have plain : Symbol.isBlank '-' = false := by decide
  have stripped : Text.strip replacement = ['>', '=', 'F'] := by decide
  obtain ⟨arrow, -, agree, -⟩ := rule_forms_agree plain replacement
  obtain ⟨-, builds, -, refused⟩ := rule_forms_agree plain ruleArrow
  rw [stripped] at arrow
  have equals : ofTexts [.char '-' :: .char '=' :: replacement] = .ok g := by decide +kernel
  have same := (agree g equals).2
  rw [stripped] at same
  refine ⟨plain, arrow, equals, same, ?_⟩
  cases read : ofTexts [.char '-' :: .char '=' :: ruleArrow] with
  | ok g' => exact ((builds.mp ⟨g', read⟩).2 (List.infix_refl _)).elim
  | error fault =>
    obtain ⟨left, other, rfl⟩ := refused fault read
    exact ⟨left, other, rfl⟩

/-- An arrow in the replacement, and a rule for the equals sign, are read after an arrow only. -/
theorem equals_rules_refused :
    Symbol.isBlank 'F' = false ∧ Symbol.isBlank '=' = false ∧
      ofTexts [['F', '-', '>', '-', '>', 'G']] = .ok (ofRules [('F', ['-', '>', 'G'])]) ∧
      ofTexts [['F', '=', '-', '>', 'G']] = .error (.symbolNotSingle "'F='") ∧
      ofTexts [['=', '-', '>', 'G']] = .ok (ofRules [('=', ['G'])]) ∧
      ofTexts [['=', '=', 'G']] = .error (.symbolNotSingle "''") := by
  decide +kernel

end Grammar

/-- A rule with an arrow as it may be written: blanks before its symbol, on both sides of the arrow
and after its replacement, which has none at its ends. -/
structure ArrowText where
  symbol : Symbol
  replacement : Word
  indent : Word
  beforeArrow : Word
  afterArrow : Word
  trailing : Word
  symbol_plain : symbol.isBlank = false
  head_plain : ∀ c ∈ replacement.head?, c.isBlank = false
  last_plain : ∀ c ∈ replacement.getLast?, c.isBlank = false
  indent_blank : ∀ c ∈ indent, c.isBlank = true
  beforeArrow_blank : ∀ c ∈ beforeArrow, c.isBlank = true
  afterArrow_blank : ∀ c ∈ afterArrow, c.isBlank = true
  trailing_blank : ∀ c ∈ trailing, c.isBlank = true

namespace ArrowText

/-- The text of a rule. -/
def text (t : ArrowText) : Word :=
  t.indent ++ t.symbol :: (t.beforeArrow ++
    .char '-' :: .char '>' :: (t.afterArrow ++ t.replacement ++ t.trailing))

/-- The rule that is written. -/
def rule (t : ArrowText) : Symbol × Word :=
  (t.symbol, t.replacement)

theorem sides (t : ArrowText) : ruleSides t.text = .ok ([t.symbol], t.replacement) := by
  have right : Text.strip (t.afterArrow ++ t.replacement ++ t.trailing) = t.replacement :=
    (stripWhere_append t.afterArrow_blank t.trailing_blank _).trans
      (stripWhere_eq_self t.head_plain t.last_plain)
  unfold text
  rw [ruleSides_arrow t.symbol_plain t.indent_blank t.beforeArrow_blank, right]

/-- Rules with new symbols are put at the end of a table, one after another. -/
theorem ruleTableAfter_append (table : List (Word × Word)) {rules : List ArrowText}
    (rest : List Word) (fresh : (table.map Prod.fst ++ rules.map fun t => [t.symbol]).Nodup) :
    ruleTableAfter table (rules.map text ++ rest)
      = ruleTableAfter (table ++ rules.map fun t => ([t.symbol], t.replacement)) rest := by
  -- The table grows along with the rules that have been read, so it is general.
  induction rules generalizing table with
  | nil => simp
  | cons t rules ih =>
    have new : [t.symbol] ∉ table.map Prod.fst := by
      intro known
      exact (List.nodup_append.mp fresh).2.2 _ known _ List.mem_cons_self rfl
    have later : ((table ++ [([t.symbol], t.replacement)]).map Prod.fst
        ++ rules.map fun t => [t.symbol]).Nodup := by
      simpa using fresh
    rw [List.map_cons, List.cons_append, ruleTableAfter, t.sides]
    dsimp only
    rw [if_neg new, ih _ later, List.append_assoc]
    rfl

theorem nodup_symbols_iff {rules : List ArrowText} :
    (rules.map fun t => [t.symbol]).Nodup ↔ (rules.map symbol).Nodup := by
  have single : Function.Injective fun c : Symbol => [c] :=
    fun _ _ same => List.head_eq_of_cons_eq same
  rw [← List.nodup_map_iff single, List.map_map]
  rfl

/-- Rules that do not all have symbols of their own have a first one whose symbol came before. -/
theorem exists_first_repeated {rules : List ArrowText} (repeated : ¬(rules.map symbol).Nodup) :
    ∃ before t after, rules = before ++ t :: after ∧ (before.map symbol).Nodup ∧
      t.symbol ∈ before.map symbol := by
  induction rules using List.reverseRecOn with
  | nil => exact (repeated List.nodup_nil).elim
  | append_singleton rules last ih =>
    by_cases distinct : (rules.map symbol).Nodup
    · refine ⟨rules, last, [], rfl, distinct, ?_⟩
      by_contra new
      apply repeated
      rw [List.map_append, List.nodup_append]
      refine ⟨distinct, List.nodup_singleton _, fun c known d isLast => ?_⟩
      rintro rfl
      exact new (List.mem_singleton.mp isLast ▸ known)
    · obtain ⟨before, t, after, rfl, first, known⟩ := ih distinct
      exact ⟨before, t, after ++ [last], by simp, first, known⟩

section
variable {rules : List ArrowText}

theorem ofTexts_of_distinct (distinct : (rules.map symbol).Nodup) :
    ∃ g, Grammar.ofTexts (rules.map text) = .ok g ∧ g.rules = rules.map rule := by
  have keys : (rules.map rule).map Prod.fst = rules.map symbol := by
    rw [List.map_map]
    rfl
  have read : ruleTableAfter [] (rules.map text)
      = .ok (rules.map fun t => ([t.symbol], t.replacement)) := by
    have taken := ruleTableAfter_append [] [] (nodup_symbols_iff.mpr distinct)
    rw [List.append_nil] at taken
    exact taken
  refine ⟨.ofRules (rules.map rule), Grammar.ofTexts_of_table ?_, tableOf_eq_self (keys ▸ distinct)⟩
  rw [read, List.map_map]
  rfl

/-- The first symbol that comes again is told of. -/
theorem ofTexts_of_repeated {before after : List ArrowText} {t : ArrowText}
    (parts : rules = before ++ t :: after) (first : (before.map symbol).Nodup)
    (known : t.symbol ∈ before.map symbol) :
    Grammar.ofTexts (rules.map text) = .error (.duplicate [t.symbol]) := by
  apply Grammar.ofTexts_of_error
  have taken := ruleTableAfter_append [] ((t :: after).map text) (nodup_symbols_iff.mpr first)
  have listed : [t.symbol] ∈
      (before.map fun u => (([u.symbol] : Word), u.replacement)).map Prod.fst := by
    rw [List.map_map]
    obtain ⟨u, earlier, same⟩ := List.mem_map.mp known
    exact List.mem_map.mpr ⟨u, earlier, congrArg (fun c => [c]) same⟩
  rw [parts, List.map_append, taken, List.map_cons, ruleTableAfter, t.sides]
  exact if_pos listed

end

/-- Rules with arrows are read as they are meant, whatever blanks and parts of arrows stand in them:
with symbols of their own they are the rules of the grammar, in their order; else the first symbol
that comes again is refused. -/
theorem arrow_texts_decoded (rules : List ArrowText) :
    let read := Grammar.ofTexts (rules.map text)
    ((∃ g, read = .ok g) ↔ (rules.map symbol).Nodup) ∧
    (∀ g, read = .ok g ↔ g.rules = rules.map rule) ∧
    (¬(rules.map symbol).Nodup → ∃ before t after, rules = before ++ t :: after ∧
      (before.map symbol).Nodup ∧ t.symbol ∈ before.map symbol ∧
        read = .error (.duplicate [t.symbol])) := by
  intro read
  by_cases distinct : (rules.map symbol).Nodup
  · obtain ⟨g, built, same⟩ := ofTexts_of_distinct distinct
    refine ⟨iff_of_true ⟨g, built⟩ distinct, fun g' => ?_, fun repeated => (repeated distinct).elim⟩
    have read_eq : read = .ok g := built
    rw [read_eq, ← same, Except.ok.injEq, eq_comm]
    exact ⟨congrArg Grammar.rules, fun same => by rw [← g'.ofRules_rules, same, g.ofRules_rules]⟩
  · obtain ⟨before, t, after, parts, first, known⟩ := exists_first_repeated distinct
    have refused : read = .error (.duplicate [t.symbol]) := ofTexts_of_repeated parts first known
    rw [refused]
    refine ⟨iff_of_false nofun distinct, fun g => iff_of_false nofun fun same => ?_,
      fun _ => ⟨before, t, after, parts, first, known, rfl⟩⟩
    have keys := congrArg (List.map Prod.fst) same
    rw [List.map_map] at keys
    exact distinct (keys ▸ g.distinct)

/-- The parts of the arrow and the equals sign may be symbols, and stand in replacements. -/
theorem separators_decoded :
    let turn : ArrowText := ⟨'-', ['>', ' ', '='], [' '], ['\t'], [' '], ['\n'],
      rfl, by rintro _ ⟨⟩; rfl, by rintro _ ⟨⟩; rfl, List.all_eq_true.mp rfl,
      List.all_eq_true.mp rfl, List.all_eq_true.mp rfl, List.all_eq_true.mp rfl⟩
    let equals : ArrowText := ⟨'=', ['-', '>'], [], [], [], [],
      rfl, by rintro _ ⟨⟩; rfl, by rintro _ ⟨⟩; rfl, nofun, nofun, nofun, nofun⟩
    turn.text = [' ', '-', '\t', '-', '>', ' ', '>', ' ', '=', '\n'] ∧
      (∃ g, Grammar.ofTexts [turn.text, equals.text] = .ok g ∧
        g.rules = ([('-', ['>', ' ', '=']), ('=', ['-', '>'])] : List (Symbol × Word))) ∧
      ¬([turn, equals, turn].map symbol).Nodup ∧
      ∃ t : ArrowText, t.symbol = '-' ∧
        Grammar.ofTexts [turn.text, equals.text, turn.text] = .error (.duplicate [t.symbol]) := by
  intro turn equals
  obtain ⟨builds, reads, -⟩ := arrow_texts_decoded [turn, equals]
  obtain ⟨g, read⟩ := builds.mpr (by decide)
  have repeated : ¬([turn, equals, turn].map symbol).Nodup := by decide
  obtain ⟨-, -, refused⟩ := arrow_texts_decoded [turn, equals, turn]
  obtain ⟨before, t, after, -, -, -, failed⟩ := refused repeated
  have told : Grammar.ofTexts [turn.text, equals.text, turn.text] = .error (.duplicate ['-']) := by
    decide +kernel
  have same : t.symbol = '-' := by
    have eq := failed.symm.trans told
    simpa using eq
  exact ⟨rfl, ⟨g, read, (reads g).mp read⟩, repeated, t, same, failed⟩

end ArrowText

end LSystems
