import LSystems.Proofs.JsonFaults
import LSystems.Proofs.LargestFloat
import LSystems.Proofs.Printing

namespace LSystems

namespace Definition

section
variable {data : Json} {default : Text}

/-- A value with the parts of a definition, the angle among them a whole number. -/
structure HasWholeAngle (data : Json) (n : Int) : Prop where
  seed : ∃ s, data.get? "axiom" = some (.text s) ∧ s ≠ []
  rules : ∀ v, data.get? "rules" = some v → ∃ members, v = .object members
  angle : data.get? "angle" = some (.int n)
  name : ∀ v, data.get? "name" = some v → ∃ s, v = .text s

theorem seedOf_eq_ok_iff {seed : { w : Word // w ≠ [] }} :
    seedOf data = .ok seed ↔ data.get? "axiom" = some (.text seed.val) := by
  obtain ⟨w, full⟩ := seed
  unfold seedOf
  split
  next s found =>
    rw [found]
    constructor
    · intro given
      split at given
      next =>
        cases given
        rfl
      next => cases given
    · intro same
      cases same
      exact dif_pos full
  next other =>
    constructor
    · intro given
      cases given
    · intro found
      exact (other _ found).elim

theorem rulesOf_eq_ok_iff {members : List (Text × Json)} :
    rulesOf data = .ok members ↔ data.get? "rules" = some (.object members) ∨
      data.get? "rules" = none ∧ members = [] := by
  unfold rulesOf
  split
  next found => simp [found]
  next missing => simp [missing, eq_comm]
  next v other found =>
    simp only [reduceCtorEq, false_iff]
    rintro (table | ⟨missing, -⟩)
    · cases found.symm.trans table
      exact other _ rfl
    · cases found.symm.trans missing

theorem angleOf_eq_ok_iff {angle : Int ⊕ Float} :
    angleOf data = .ok angle ↔ (∃ n, data.get? "angle" = some (.int n) ∧ angle = .inl n) ∨
      (∃ x, data.get? "angle" = some (.float x) ∧ angle = .inr x) ∨
      data.get? "angle" = none ∧ angle = .inr Environment.defaultAngle := by
  unfold angleOf
  split
  next n found => simp [found, eq_comm]
  next x found => simp [found, eq_comm]
  next missing => simp [missing, eq_comm]
  next v noInt noFloat found =>
    simp only [reduceCtorEq, false_iff]
    rintro (⟨n, whole, -⟩ | ⟨x, real, -⟩ | ⟨missing, -⟩)
    · cases found.symm.trans whole
      exact noInt _ rfl
    · cases found.symm.trans real
      exact noFloat _ rfl
    · cases found.symm.trans missing

theorem nameOf_eq_ok_iff {name : Text} :
    nameOf data default = .ok name ↔ data.get? "name" = some (.text name) ∨
      data.get? "name" = none ∧ name = default := by
  unfold nameOf
  split
  next s found => simp [found]
  next missing => simp [missing, eq_comm]
  next v other found =>
    simp only [reduceCtorEq, false_iff]
    rintro (text | ⟨missing, -⟩)
    · cases found.symm.trans text
      exact other _ rfl
    · cases found.symm.trans missing

theorem exists_seedOf_iff : (∃ seed, seedOf data = .ok seed) ↔
    ∃ s, data.get? "axiom" = some (.text s) ∧ s ≠ [] := by
  constructor
  · rintro ⟨⟨w, full⟩, given⟩
    exact ⟨w, seedOf_eq_ok_iff.mp given, full⟩
  · rintro ⟨s, found, full⟩
    exact ⟨⟨s, full⟩, seedOf_eq_ok_iff.mpr found⟩

theorem exists_rulesOf_iff : (∃ rules, rulesOf data = .ok rules) ↔
    ∀ v, data.get? "rules" = some v → ∃ members, v = .object members := by
  constructor
  · rintro ⟨rules, given⟩ v found
    obtain table | ⟨missing, -⟩ := rulesOf_eq_ok_iff.mp given
    · cases found.symm.trans table
      exact ⟨rules, rfl⟩
    · cases found.symm.trans missing
  · intro table
    cases found : data.get? "rules" with
    | none => exact ⟨[], rulesOf_eq_ok_iff.mpr (.inr ⟨found, rfl⟩)⟩
    | some v =>
      obtain ⟨members, rfl⟩ := table v found
      exact ⟨members, rulesOf_eq_ok_iff.mpr (.inl found)⟩

theorem exists_nameOf_iff : (∃ name, nameOf data default = .ok name) ↔
    ∀ v, data.get? "name" = some v → ∃ s, v = .text s := by
  constructor
  · rintro ⟨name, given⟩ v found
    obtain text | ⟨missing, -⟩ := nameOf_eq_ok_iff.mp given
    · cases found.symm.trans text
      exact ⟨name, rfl⟩
    · cases found.symm.trans missing
  · intro text
    cases found : data.get? "name" with
    | none => exact ⟨default, nameOf_eq_ok_iff.mpr (.inr ⟨found, rfl⟩)⟩
    | some v =>
      obtain ⟨s, rfl⟩ := text v found
      exact ⟨s, nameOf_eq_ok_iff.mpr (.inl found)⟩

theorem ofJson_of_parts {members : List (Text × Json)} {seed : { w : Word // w ≠ [] }}
    {rules : List (Text × Json)} {angle : Int ⊕ Float} {name : Text}
    (seeds : seedOf (.object members) = .ok seed) (ruled : rulesOf (.object members) = .ok rules)
    (turns : angleOf (.object members) = .ok angle)
    (named : nameOf (.object members) default = .ok name) :
    ofJson (.object members) default
      = match floatAngle angle with
        | .error e => .error e
        | .ok x =>
          match Grammar.ofValues
              (rules.map fun (symbol, replacement) => (.text symbol, replacement)) with
          | .error e => .error (.definition (.rule e))
          | .ok grammar => .ok ⟨name, seed.val, grammar, x⟩ := by
  unfold ofJson
  dsimp only
  rw [seeds, ruled, turns, named]
  simp only [Except.mapError, bind, Except.bind, pure, Except.pure]
  cases floatAngle angle with
  | error e => rfl
  | ok x =>
    dsimp only
    cases Grammar.ofValues (rules.map fun (symbol, replacement) => (.text symbol, replacement)) with
    | error e => rfl
    | ok grammar => rfl

theorem floatAngle_cases (angle : Int ⊕ Float) :
    (∃ x, floatAngle angle = .ok x ∧ ∀ n, angle = .inl n → n.natAbs < twoTo 1024 - twoTo 970) ∨
    ∃ n, angle = .inl n ∧ twoTo 1024 - twoTo 970 ≤ n.natAbs ∧
      floatAngle angle = .error .angleTooLarge := by
  cases angle with
  | inr x => exact .inl ⟨x, rfl, nofun⟩
  | inl n =>
    unfold floatAngle
    dsimp only
    cases found : floatOfInt? n with
    | none => exact .inr ⟨n, rfl, floatOfInt?_eq_none_iff.mp found, rfl⟩
    | some x =>
      refine .inl ⟨x, rfl, ?_⟩
      rintro m ⟨⟩
      apply Nat.lt_of_not_le
      intro large
      cases found.symm.trans (floatOfInt?_eq_none_iff.mpr large)

theorem HasWholeAngle.ofJson {n : Int} (h : HasWholeAngle data n)
    (large : twoTo 1024 - twoTo 970 ≤ n.natAbs) (default : Text) :
    ofJson data default = .error .angleTooLarge := by
  obtain ⟨seed, seeds⟩ := exists_seedOf_iff.mpr h.seed
  obtain ⟨rules, ruled⟩ := exists_rulesOf_iff.mpr h.rules
  obtain ⟨name, named⟩ : ∃ name, nameOf data default = .ok name := exists_nameOf_iff.mpr h.name
  have turns := angleOf_eq_ok_iff.mpr (.inl ⟨n, h.angle, rfl⟩)
  have beyond : floatAngle (.inl n) = .error .angleTooLarge := by
    obtain ⟨x, -, small⟩ | ⟨m, -, -, failed⟩ := floatAngle_cases (.inl n)
    · exact (Nat.not_le.mpr (small n rfl) large).elim
    · exact failed
  cases data with
  | object members => rw [ofJson_of_parts seeds ruled turns named, beyond]
  | _ => cases h.angle

/-- A value with a part that cannot be read gives the fault of the first such part. -/
theorem ofJson_parts (data : Json) (default : Text) :
    (∃ fault, ofJson data default = .error (.definition fault)) ∨
    ∃ members seed rules angle name, data = .object members ∧ seedOf data = .ok seed ∧
      rulesOf data = .ok rules ∧ angleOf data = .ok angle ∧ nameOf data default = .ok name := by
  cases data with
  | object members =>
    cases seeds : seedOf (.object members) with
    | error fault =>
      refine .inl ⟨fault, ?_⟩
      unfold ofJson
      dsimp only
      rw [seeds]
      rfl
    | ok seed =>
      cases ruled : rulesOf (.object members) with
      | error fault =>
        refine .inl ⟨fault, ?_⟩
        unfold ofJson
        dsimp only
        rw [seeds, ruled]
        rfl
      | ok rules =>
        cases turns : angleOf (.object members) with
        | error fault =>
          refine .inl ⟨fault, ?_⟩
          unfold ofJson
          dsimp only
          rw [seeds, ruled, turns]
          rfl
        | ok angle =>
          cases named : nameOf (.object members) default with
          | error fault =>
            refine .inl ⟨fault, ?_⟩
            unfold ofJson
            dsimp only
            rw [seeds, ruled, turns, named]
            rfl
          | ok name => exact .inr ⟨members, seed, rules, angle, name, rfl, rfl, rfl, rfl, rfl⟩
  | _ => exact .inl ⟨.notObject, rfl⟩

/-- What a value gives: a definition with the parts that the value has, a fault of the definition, or
nothing when its angle is a whole number beyond the largest binary64 number. -/
theorem ofJson_cases (data : Json) (default : Text) :
    (∃ d rules angle, ofJson data default = .ok d ∧ (∃ members, data = .object members) ∧
      d.seed ≠ [] ∧ data.get? "axiom" = some (.text d.seed) ∧ rulesOf data = .ok rules ∧
      Grammar.ofValues (rules.map fun (symbol, replacement) => (.text symbol, replacement))
        = .ok d.grammar ∧
      angleOf data = .ok angle ∧ floatAngle angle = .ok d.angle ∧ nameOf data default = .ok d.name) ∨
    (∃ fault, ofJson data default = .error (.definition fault)) ∨
    ∃ n : Int, HasWholeAngle data n ∧ twoTo 1024 - twoTo 970 ≤ n.natAbs := by
  obtain fails | ⟨members, seed, rules, angle, name, rfl, seeds, ruled, turns, named⟩ :=
    ofJson_parts data default
  · exact .inr (.inl fails)
  have whole := ofJson_of_parts seeds ruled turns named
  obtain ⟨x, real, -⟩ | ⟨n, rfl, large, failed⟩ := floatAngle_cases angle
  · rw [real] at whole
    dsimp only at whole
    cases built : Grammar.ofValues
        (rules.map fun (symbol, replacement) => (.text symbol, replacement)) with
    | error e =>
      rw [built] at whole
      exact .inr (.inl ⟨.rule e, whole⟩)
    | ok grammar =>
      rw [built] at whole
      exact .inl ⟨_, rules, angle, whole, ⟨members, rfl⟩, seed.property, seedOf_eq_ok_iff.mp seeds,
        ruled, built, turns, real, named⟩
  · obtain ⟨m, found, same⟩ | ⟨x, -, other⟩ | ⟨-, other⟩ := angleOf_eq_ok_iff.mp turns
    · cases same
      exact .inr (.inr ⟨n, ⟨exists_seedOf_iff.mp ⟨seed, seeds⟩, exists_rulesOf_iff.mp ⟨rules, ruled⟩,
        found, exists_nameOf_iff.mp ⟨name, named⟩⟩, large⟩)
    · cases other
    · cases other

end

/-- What the bytes of a file can hold that is neither a definition nor called malformed: no text, a
whole number of too many digits or a bracket too deep inside others where a value may stand, or a
whole number beyond the largest binary64 number for the angle of what would be a definition. -/
inductive Escapes (depth : Nat) (bytes : ByteArray) : SourceFault → Prop
  | notUtf8 (noText : ∀ text : String, text.toUTF8 ≠ bytes) : Escapes depth bytes .notUtf8
  | numberTooLong {text : String} {before after : List JsonToken} {place : JsonPlace}
    {parts : List JsonPart} {digits : Nat} (content : text.toUTF8 = bytes)
    (tokens : jsonTokens text.toList = before ++ .tooLong digits :: after)
    (reached : readTokens depth .value [] before = .ok (place, parts))
    (awaited : place.takesValue = true) : Escapes depth bytes (.numberTooLong digits)
  | tooDeep {text : String} {before after : List JsonToken} {token : JsonToken} {place : JsonPlace}
    {parts : List JsonPart} {container : String} (content : text.toUTF8 = bytes)
    (tokens : jsonTokens text.toList = before ++ token :: after)
    (reached : readTokens depth .value [] before = .ok (place, parts))
    (awaited : place.takesValue = true)
    (deep : before.countP JsonToken.closes + depth ≤ before.countP JsonToken.opens)
    (opens : token = .openArray ∧ container = "array" ∨
      token = .openObject ∧ container = "object") :
    Escapes depth bytes (.tooDeep container)
  | angleTooLarge {text : String} {data : Json} {n : Int} (content : text.toUTF8 = bytes)
    (read : readJson depth text = .ok data) (parts : HasWholeAngle data n)
    (large : twoTo 1024 - twoTo 970 ≤ n.natAbs) : Escapes depth bytes .angleTooLarge

section
variable {depth : Nat} {path : Path} {bytes : ByteArray} {text : String} {fault : SourceFault}

theorem load_of_present {read : Path → Except FileFault ByteArray} (named : path.nameFault? = none)
    (present : read path = .ok bytes) : load depth read path = ofBytes depth path bytes := by
  unfold load
  rw [named, present]

theorem fromUTF8?_toUTF8 (text : String) : String.fromUTF8? text.toUTF8 = some text :=
  dif_pos text.isValidUTF8

theorem ofBytes_toUTF8 (depth : Nat) (path : Path) (text : String) :
    ofBytes depth path text.toUTF8
      = match readJson depth text with
        | .error .invalid => .error (.definition (.invalidJson path.text))
        | .error (.tooLong digits) => .error (.numberTooLong digits)
        | .error (.tooDeep container) => .error (.tooDeep container)
        | .ok data => ofJson data path.stem := by
  unfold ofBytes
  rewrite [fromUTF8?_toUTF8]
  rfl

theorem depth_of_reached {before : List JsonToken} {place : JsonPlace} {parts : List JsonPart}
    (reached : readTokens depth .value [] before = .ok (place, parts)) :
    depth ≤ jsonDepth parts ↔
      before.countP JsonToken.closes + depth ≤ before.countP JsonToken.opens := by
  have counted := jsonDepth_readTokens reached
  have none : jsonDepth [] = 0 := rfl
  omega

/-- What escapes is not caught on the way from the bytes. -/
theorem Escapes.ofBytes (h : Escapes depth bytes fault) (path : Path) :
    ofBytes depth path bytes = .error fault := by
  cases h with
  | notUtf8 noText =>
    have invalid : ¬bytes.IsValidUTF8 := by
      intro valid
      exact noText (String.fromUTF8 bytes valid) rfl
    unfold Definition.ofBytes String.fromUTF8?
    rw [dif_neg invalid]
  | numberTooLong content tokens reached awaited =>
    have failed := readJson_of_overtaxes tokens reached awaited (.number _)
    rw [← content, ofBytes_toUTF8, failed]
  | tooDeep content tokens reached awaited deep opens =>
    have inside := (depth_of_reached reached).mpr deep
    rcases opens with ⟨rfl, rfl⟩ | ⟨rfl, rfl⟩
    · have failed := readJson_of_overtaxes tokens reached awaited (.array inside)
      rw [← content, ofBytes_toUTF8, failed]
    · have failed := readJson_of_overtaxes tokens reached awaited (.object inside)
      rw [← content, ofBytes_toUTF8, failed]
  | angleTooLarge content read parts large =>
    rw [← content, ofBytes_toUTF8, read]
    exact parts.ofJson large _

theorem ofBytes_cases (depth : Nat) (path : Path) (bytes : ByteArray) :
    (∃ d text data rules, ofBytes depth path bytes = .ok d ∧ d.seed ≠ [] ∧ text.toUTF8 = bytes ∧
      readJson depth text = .ok data ∧ data.get? "axiom" = some (.text d.seed) ∧
      rulesOf data = .ok rules ∧
      Grammar.ofValues (rules.map fun (symbol, replacement) => (.text symbol, replacement))
        = .ok d.grammar) ∨
    (∃ fault, ofBytes depth path bytes = .error (.definition fault)) ∨
    ∃ fault, Escapes depth bytes fault := by
  by_cases valid : bytes.IsValidUTF8
  · obtain ⟨text, rfl⟩ : ∃ text : String, text.toUTF8 = bytes := ⟨String.fromUTF8 bytes valid, rfl⟩
    rw [ofBytes_toUTF8]
    cases read : readJson depth text with
    | ok data =>
      dsimp only
      obtain ⟨d, rules, -, built, -, full, seed, ruled, grammar, -⟩ | malformed |
        ⟨n, parts, large⟩ := ofJson_cases data path.stem
      · exact .inl ⟨d, text, data, rules, built, full, rfl, read, seed, ruled, grammar⟩
      · exact .inr (.inl malformed)
      · exact .inr (.inr ⟨_, .angleTooLarge rfl read parts large⟩)
    | error e =>
      cases e with
      | invalid => exact .inr (.inl ⟨.invalidJson path.text, rfl⟩)
      | tooLong digits =>
        obtain ⟨before, token, after, place, parts, tokens, reached, awaited, overtaxes⟩ :=
          exists_overtaxes_of_readJson read nofun
        cases overtaxes
        exact .inr (.inr ⟨_, .numberTooLong rfl tokens reached awaited⟩)
      | tooDeep container =>
        obtain ⟨before, token, after, place, parts, tokens, reached, awaited, overtaxes⟩ :=
          exists_overtaxes_of_readJson read nofun
        cases overtaxes with
        | array inside =>
          have deep := (depth_of_reached reached).mp inside
          exact .inr (.inr ⟨_, .tooDeep rfl tokens reached awaited deep (.inl ⟨rfl, rfl⟩)⟩)
        | object inside =>
          have deep := (depth_of_reached reached).mp inside
          exact .inr (.inr ⟨_, .tooDeep rfl tokens reached awaited deep (.inr ⟨rfl, rfl⟩)⟩)
  · refine .inr (.inr ⟨_, .notUtf8 ?_⟩)
    rintro text rfl
    exact valid text.isValidUTF8

theorem Escapes.digits {k : Nat} (h : Escapes depth bytes (.numberTooLong k)) :
    ∃ (text : String) (digits : List Char), text.toUTF8 = bytes ∧ DigitRun digits text.toList ∧
      digits.length = k := by
  cases h with
  | @numberTooLong text before after place parts _ content tokens reached awaited =>
    have member : .tooLong k ∈ jsonTokens text.toList := by
      rw [tokens]
      exact List.mem_append_right _ List.mem_cons_self
    obtain ⟨digits, run, count⟩ := digitRun_of_mem_jsonTokensWithin member
    exact ⟨text, digits, content, run, count⟩

theorem Escapes.brackets {container : String} (h : Escapes depth bytes (.tooDeep container)) :
    ∃ text : String, text.toUTF8 = bytes ∧ depth < text.toList.countP isOpeningBracket := by
  cases h with
  | @tooDeep text before after token place parts _ content tokens reached awaited deep opens =>
    have one : token.opens = true := by
      rcases opens with ⟨rfl, -⟩ | ⟨rfl, -⟩ <;> rfl
    have many := countP_opens_jsonTokensWithin text.toList.length text.toList
    have all : jsonTokensWithin text.toList.length text.toList = before ++ token :: after := tokens
    rw [all, List.countP_append, List.countP_cons_of_pos one] at many
    exact ⟨text, content, by omega⟩

end

end Definition

namespace Source

variable {around : Surroundings} {path : Path} {preset : Text}

theorem resolve_of_ok {d : Definition}
    (loaded : Definition.load around.depth around.read path = .ok d) :
    (Source.mk preset (some path)).resolve around = .ok d := by
  unfold resolve
  dsimp only
  rw [loaded]

theorem resolve_of_malformed {fault : DefinitionFault}
    (loaded : Definition.load around.depth around.read path = .error (.definition fault)) :
    (Source.mk preset (some path)).resolve around = .error .failure := by
  unfold resolve
  dsimp only
  rw [loaded]

theorem resolve_of_escape {fault : SourceFault}
    (loaded : Definition.load around.depth around.read path = .error fault)
    (noDefinition : ∀ f, fault ≠ .definition f) (noFile : ∀ path f, fault ≠ .file path f) :
    (Source.mk preset (some path)).resolve around = .error (.broke (.source fault)) := by
  unfold resolve
  dsimp only
  rw [loaded]
  cases fault with
  | definition f => exact (noDefinition f rfl).elim
  | file path f => exact (noFile path f rfl).elim
  | _ => rfl

end Source

/-- The file of a path that can be read gives a definition or is refused as malformed, unless what
it holds is one of the four things that escape; those break the command off. -/
theorem load_faults (around : Surroundings) (path : Path) (preset : Text) (bytes : ByteArray)
    (named : path.nameFault? = none) (present : around.read path = .ok bytes) :
    let loaded := Definition.load around.depth around.read path
    let resolved := (Source.mk preset (some path)).resolve around
    let Escapes := Definition.Escapes around.depth bytes
    ((∀ fault, ¬Escapes fault) →
      (∃ d text data rules, loaded = .ok d ∧ resolved = .ok d ∧ d.seed ≠ [] ∧ text.toUTF8 = bytes ∧
        readJson around.depth text = .ok data ∧ data.get? "axiom" = some (.text d.seed) ∧
        Definition.rulesOf data = .ok rules ∧
        Grammar.ofValues (rules.map fun (symbol, replacement) => (.text symbol, replacement))
          = .ok d.grammar) ∨
      ∃ fault left, loaded = .error (.definition fault) ∧ resolved = .error left ∧ left.exit = 1 ∧
        left.broken.isNone = true) ∧
    (∀ fault, Escapes fault → loaded = .error fault ∧ (∀ f, fault ≠ .definition f) ∧
      resolved = .error (.broke (.source fault))) ∧
    (∀ k, Escapes (.numberTooLong k) →
      ∃ (text : String) (digits : List Char), text.toUTF8 = bytes ∧ DigitRun digits text.toList ∧
        digits.length = k) ∧
    ∀ container, Escapes (.tooDeep container) →
      ∃ text : String, text.toUTF8 = bytes ∧
        around.depth < text.toList.countP isOpeningBracket := by
  intro loaded resolved Escapes
  have opened : loaded = Definition.ofBytes around.depth path bytes :=
    Definition.load_of_present named present
  refine ⟨?_, ?_, fun k => Definition.Escapes.digits, fun container => Definition.Escapes.brackets⟩
  · intro none
    obtain ⟨d, text, data, rules, built, full, content, read, seed, ruled, grammar⟩ |
      ⟨fault, refused⟩ | ⟨fault, escapes⟩ := Definition.ofBytes_cases around.depth path bytes
    · have given : resolved = .ok d := Source.resolve_of_ok (opened.trans built)
      exact .inl ⟨d, text, data, rules, opened.trans built, given, full, content, read, seed, ruled,
        grammar⟩
    · have left : resolved = .error .failure := Source.resolve_of_malformed (opened.trans refused)
      exact .inr ⟨fault, .failure, opened.trans refused, left, rfl, rfl⟩
    · exact (none fault escapes).elim
  · intro fault escapes
    have escaped := opened.trans (escapes.ofBytes path)
    refine ⟨escaped, ?_⟩
    cases escapes with
    | notUtf8 => exact ⟨nofun, Source.resolve_of_escape escaped nofun nofun⟩
    | numberTooLong => exact ⟨nofun, Source.resolve_of_escape escaped nofun nofun⟩
    | tooDeep => exact ⟨nofun, Source.resolve_of_escape escaped nofun nofun⟩
    | angleTooLarge => exact ⟨nofun, Source.resolve_of_escape escaped nofun nofun⟩

theorem doubling_file_loads :
    let text := "\x7b\"axiom\": \"F\", \"rules\": \x7b\"F\": \"FF\"\x7d\x7d"
    let path := Path.ofText "d.json"
    let around := Surroundings.ofFile 900 text.toUTF8
    path.nameFault? = none ∧ around.read path = .ok text.toUTF8 ∧
      (∀ fault, ¬Definition.Escapes around.depth text.toUTF8 fault) ∧
      ∃ d, Definition.load around.depth around.read path = .ok d ∧
        (Source.mk "plant" (some path)).resolve around = .ok d ∧ d.seed ≠ [] := by
  intro text path around
  have named : path.nameFault? = none := by decide
  have present : around.read path = .ok text.toUTF8 := rfl
  obtain ⟨decided, escaped, -, -⟩ := load_faults around path "plant" text.toUTF8 named present
  have loads : (Definition.load around.depth around.read path).isOk = true := by
    rw [Definition.load_of_present named present, Definition.ofBytes_toUTF8]
    decide +kernel
  -- A content that escapes is not loaded, so that it loads is enough.
  have none (fault : SourceFault) : ¬Definition.Escapes around.depth text.toUTF8 fault := by
    intro escapes
    rw [(escaped fault escapes).1] at loads
    cases loads
  refine ⟨named, present, none, ?_⟩
  obtain ⟨d, -, -, -, built, given, seed, -⟩ | ⟨fault, left, refused, -⟩ := decided none
  · exact ⟨d, built, given, seed⟩
  · rw [refused] at loads
    cases loads

/-- A definition with an angle of 309 nines, which is beyond the largest binary64 number. -/
def farTurning : List Char :=
  "\x7b\"axiom\": \"F\", \"angle\": ".toList ++ List.replicate 309 '9' ++ ['\x7d']

/-- A byte that begins no character and an angle too large break off the command. -/
theorem malformed_files_escape :
    let path := Path.ofText "d.json"
    let cut : Surroundings := .ofFile 900 (ByteArray.mk #[0xFF])
    let far : Surroundings := .ofFile 900 (String.ofList farTurning).toUTF8
    let source : Source := ⟨"plant", some path⟩
    Definition.load cut.depth cut.read path = .error .notUtf8 ∧
      source.resolve cut = .error (.broke (.source .notUtf8)) ∧
      Definition.load far.depth far.read path = .error .angleTooLarge ∧
      source.resolve far = .error (.broke (.source .angleTooLarge)) := by
  intro path cut far source
  have named : path.nameFault? = none := by decide
  have bytes : Definition.load cut.depth cut.read path = .error .notUtf8 := by decide +kernel
  have number : Definition.load far.depth far.read path = .error .angleTooLarge := by
    rw [Definition.load_of_present named rfl, Definition.ofBytes_toUTF8, readJson_ofList]
    decide +kernel
  exact ⟨bytes, Source.resolve_of_escape bytes nofun nofun, number,
    Source.resolve_of_escape number nofun nofun⟩

end LSystems
