import LSystems.Proofs.Configured
import LSystems.Proofs.DefinitionFaults

namespace LSystems

/-- Rules as the members of an object. -/
def ruleMembers (rules : List (Symbol × Word)) : List (Text × Json) :=
  rules.map fun (c, w) => ([c], .text w)

namespace Grammar

theorem ruleOfValues_eq_ok_iff {symbol : Text} {replacement : Json} {rule : Symbol × Word} :
    ruleOfValues (.text symbol) replacement = .ok rule ↔
      (symbol, replacement) = ([rule.1], .text rule.2) := by
  constructor
  · intro ruled
    unfold ruleOfValues at ruled
    split at ruled
    next c single =>
      cases single
      split at ruled
      next =>
        cases ruled
        rfl
      next => cases ruled
    next => cases ruled
  · rintro ⟨⟩
    rfl

theorem mapM_ruleOfValues_iff {members : List (Text × Json)} {rules : List (Symbol × Word)} :
    (members.map fun (symbol, replacement) => ((.text symbol : Json), replacement)).mapM
        (fun entry => ruleOfValues entry.1 entry.2) = .ok rules ↔ members = ruleMembers rules := by
  induction members generalizing rules with
  | nil => cases rules <;> simp [ruleMembers, pure, Except.pure]
  | cons member rest ih =>
    rw [List.map_cons, List.mapM_cons]
    constructor
    · intro read
      cases ruled : ruleOfValues (.text member.1) member.2 with
      | error e =>
        rw [ruled] at read
        cases read
      | ok rule =>
        rw [ruled] at read
        cases others : (rest.map fun (symbol, replacement) =>
            ((.text symbol : Json), replacement)).mapM
          (fun entry => ruleOfValues entry.1 entry.2) with
        | error e =>
          rw [others] at read
          cases read
        | ok rules' =>
          rw [others] at read
          cases read
          rw [ih.mp others]
          exact congrArg (· :: ruleMembers rules') (ruleOfValues_eq_ok_iff.mp ruled)
    · intro written
      cases rules with
      | nil => cases written
      | cons rule rules' =>
        obtain ⟨first, others⟩ := List.cons.inj written
        rw [ruleOfValues_eq_ok_iff.mpr first, ih.mpr others]
        rfl

/-- A table of texts and values gives the grammar of the rules that are written in it, and none if
it holds anything else. -/
theorem ofValues_eq_ok_iff {members : List (Text × Json)} {g : Grammar} :
    ofValues (members.map fun (symbol, replacement) => (.text symbol, replacement)) = .ok g ↔
      ∃ rules, members = ruleMembers rules ∧ g = .ofRules rules := by
  unfold ofValues
  cases read : (members.map fun (symbol, replacement) => ((.text symbol : Json), replacement)).mapM
      (fun entry => ruleOfValues entry.1 entry.2) with
  | error e =>
    constructor
    · intro built
      cases built
    · rintro ⟨rules, written, -⟩
      cases read.symm.trans (mapM_ruleOfValues_iff.mpr written)
  | ok rules =>
    constructor
    · intro built
      cases built
      exact ⟨rules, mapM_ruleOfValues_iff.mp read, rfl⟩
    · rintro ⟨rules', written, rfl⟩
      cases read.symm.trans (mapM_ruleOfValues_iff.mpr written)
      rfl

theorem ofRules_rules (g : Grammar) : ofRules g.rules = g := by
  obtain ⟨rules, distinct⟩ := g
  unfold ofRules
  simp only [tableOf_eq_self distinct]

theorem ofValues_ruleMembers (g : Grammar) :
    ofValues ((ruleMembers g.rules).map fun (symbol, replacement) => (.text symbol, replacement))
      = .ok g :=
  ofValues_eq_ok_iff.mpr ⟨g.rules, rfl, g.ofRules_rules.symm⟩

end Grammar

/-- Members with one symbol and a text each are the rules of some table. -/
theorem exists_ruleMembers_iff {members : List (Text × Json)} :
    (∃ rules, members = ruleMembers rules) ↔
      ∀ member ∈ members, member.1.length = 1 ∧ ∃ r, member.2 = .text r := by
  constructor
  · rintro ⟨rules, rfl⟩ member listed
    obtain ⟨⟨c, w⟩, -, rfl⟩ := List.mem_map.mp listed
    exact ⟨rfl, _, rfl⟩
  · intro written
    induction members with
    | nil => exact ⟨[], rfl⟩
    | cons member rest ih =>
      obtain ⟨symbol, replacement⟩ := member
      obtain ⟨single, w, rfl⟩ := written _ List.mem_cons_self
      obtain ⟨rules, rfl⟩ := ih fun member listed => written member (List.mem_cons_of_mem _ listed)
      obtain ⟨c, rfl⟩ := List.length_eq_one_iff.mp single
      exact ⟨(c, w) :: rules, rfl⟩

namespace Definition

/-- The objects that give a definition: the seed is a text that is not empty, the rules are texts
for single symbols, the angle is a number and the name is a text. -/
structure WellFormed (data : Json) : Prop where
  object : ∃ members, data = .object members
  seed : ∃ s, data.get? "axiom" = some (.text s) ∧ s ≠ []
  rules : ∀ v, data.get? "rules" = some v → ∃ members, v = .object members ∧
    ∀ member ∈ members, member.1.length = 1 ∧ ∃ r, member.2 = .text r
  angle : ∀ v, data.get? "angle" = some v → (∃ n, v = .int n) ∨ ∃ x, v = .float x
  name : ∀ v, data.get? "name" = some v → ∃ s, v = .text s

/-- What a definition keeps of the value that gives it. -/
structure Keeps (data : Json) (default : Text) (d : Definition) : Prop where
  full : d.seed ≠ []
  seed : data.get? "axiom" = some (.text d.seed)
  rules : ∃ rules, (data.get? "rules" = some (.object (ruleMembers rules)) ∨
    data.get? "rules" = none ∧ rules = []) ∧ d.grammar = .ofRules rules ∧
    ((rules.map Prod.fst).Nodup → d.grammar.rules = rules)
  angle : (∃ n, data.get? "angle" = some (.int n) ∧ floatOfInt? n = some d.angle) ∨
    data.get? "angle" = some (.float d.angle) ∨ data.get? "angle" = none ∧ d.angle = 20.0
  name : data.get? "name" = some (.text d.name) ∨ data.get? "name" = none ∧ d.name = default

/-- A definition as a value. -/
def toJson (d : Definition) : Json :=
  .object [("name", .text d.name), ("axiom", .text d.seed),
    ("rules", .object (ruleMembers d.grammar.rules)), ("angle", .float d.angle)]

section
variable {data : Json} {default : Text} {d : Definition}

theorem floatAngle_eq_ok_iff {angle : Int ⊕ Float} {x : Float} :
    floatAngle angle = .ok x ↔ (∃ n, angle = .inl n ∧ floatOfInt? n = some x) ∨ angle = .inr x := by
  cases angle with
  | inr y => simp [floatAngle]
  | inl n =>
    unfold floatAngle
    dsimp only
    cases real : floatOfInt? n with
    | none => simp [real]
    | some y => simp [real]

theorem Keeps.of_ofJson (built : ofJson data default = .ok d) :
    (∃ members, data = .object members) ∧ Keeps data default d := by
  obtain ⟨d', rules, angle, given, object, full, seed, ruled, made, turns, real, named⟩ |
    ⟨fault, failed⟩ | ⟨n, parts, large⟩ := ofJson_cases data default
  · cases given.symm.trans built
    obtain ⟨table, written, whole⟩ := Grammar.ofValues_eq_ok_iff.mp made
    refine ⟨object, full, seed, ⟨table, ?_, whole, ?_⟩, ?_, nameOf_eq_ok_iff.mp named⟩
    · obtain given | ⟨missing, rfl⟩ := rulesOf_eq_ok_iff.mp ruled
      · exact .inl (written ▸ given)
      · exact .inr ⟨missing, List.map_eq_nil_iff.mp written.symm⟩
    · intro distinct
      rw [whole]
      exact tableOf_eq_self distinct
    · obtain ⟨n, given, rfl⟩ | ⟨x, given, rfl⟩ | ⟨missing, rfl⟩ := angleOf_eq_ok_iff.mp turns
      · obtain ⟨m, same, rounded⟩ | other := floatAngle_eq_ok_iff.mp real
        · cases same
          exact .inl ⟨n, given, rounded⟩
        · cases other
      · obtain ⟨m, other, -⟩ | same := floatAngle_eq_ok_iff.mp real
        · cases other
        · cases same
          exact .inr (.inl given)
      · obtain ⟨m, other, -⟩ | same := floatAngle_eq_ok_iff.mp real
        · cases other
        · exact .inr (.inr ⟨missing, (Sum.inr.inj same).symm⟩)
  · cases failed.symm.trans built
  · cases (parts.ofJson large default).symm.trans built

theorem Keeps.ofJson (keeps : Keeps data default d) (object : ∃ members, data = .object members) :
    ofJson data default = .ok d := by
  obtain ⟨members, rfl⟩ := object
  obtain ⟨table, given, whole, -⟩ := keeps.rules
  have seeds : seedOf (.object members) = .ok ⟨d.seed, keeps.full⟩ :=
    seedOf_eq_ok_iff.mpr keeps.seed
  have ruled : rulesOf (.object members) = .ok (ruleMembers table) := by
    refine rulesOf_eq_ok_iff.mpr (given.imp_right ?_)
    rintro ⟨missing, rfl⟩
    exact ⟨missing, rfl⟩
  have turns : ∃ angle, angleOf (.object members) = .ok angle ∧ floatAngle angle = .ok d.angle := by
    obtain ⟨n, given, real⟩ | given | ⟨missing, same⟩ := keeps.angle
    · exact ⟨_, angleOf_eq_ok_iff.mpr (.inl ⟨n, given, rfl⟩),
        floatAngle_eq_ok_iff.mpr (.inl ⟨n, rfl, real⟩)⟩
    · exact ⟨_, angleOf_eq_ok_iff.mpr (.inr (.inl ⟨_, given, rfl⟩)), rfl⟩
    · refine ⟨_, angleOf_eq_ok_iff.mpr (.inr (.inr ⟨missing, rfl⟩)), ?_⟩
      rw [same]
      rfl
  obtain ⟨angle, turns, real⟩ := turns
  have named := nameOf_eq_ok_iff.mpr keeps.name
  have made := Grammar.ofValues_eq_ok_iff.mpr ⟨table, rfl, whole⟩
  rw [ofJson_of_parts seeds ruled turns named, real]
  dsimp only
  rw [made]

theorem ofJson_eq_ok_iff :
    ofJson data default = .ok d ↔ (∃ members, data = .object members) ∧ Keeps data default d :=
  ⟨Keeps.of_ofJson, fun ⟨object, keeps⟩ => keeps.ofJson object⟩

theorem WellFormed.of_keeps (object : ∃ members, data = .object members)
    (keeps : Keeps data default d) : WellFormed data where
  object := object
  seed := ⟨_, keeps.seed, keeps.full⟩
  rules v found := by
    obtain ⟨table, given | ⟨missing, -⟩, -⟩ := keeps.rules
    · cases found.symm.trans given
      exact ⟨_, rfl, exists_ruleMembers_iff.mp ⟨table, rfl⟩⟩
    · cases found.symm.trans missing
  angle v found := by
    obtain ⟨n, given, -⟩ | given | ⟨missing, -⟩ := keeps.angle
    · cases found.symm.trans given
      exact .inl ⟨n, rfl⟩
    · cases found.symm.trans given
      exact .inr ⟨_, rfl⟩
    · cases found.symm.trans missing
  name v found := by
    obtain given | ⟨missing, -⟩ := keeps.name
    · cases found.symm.trans given
      exact ⟨_, rfl⟩
    · cases found.symm.trans missing

theorem WellFormed.exists_keeps (h : WellFormed data)
    (within : ∀ n, data.get? "angle" = some (.int n) → ∃ x, floatOfInt? n = some x) :
    ∃ d, Keeps data default d := by
  obtain ⟨s, seed, full⟩ := h.seed
  have rules : ∃ table, data.get? "rules" = some (.object (ruleMembers table)) ∨
      data.get? "rules" = none ∧ table = [] := by
    cases found : data.get? "rules" with
    | none => exact ⟨[], .inr ⟨rfl, rfl⟩⟩
    | some v =>
      obtain ⟨members, rfl, written⟩ := h.rules v found
      obtain ⟨table, rfl⟩ := exists_ruleMembers_iff.mpr written
      exact ⟨table, .inl rfl⟩
  have angle : ∃ x, (∃ n, data.get? "angle" = some (.int n) ∧ floatOfInt? n = some x) ∨
      data.get? "angle" = some (.float x) ∨ data.get? "angle" = none ∧ x = 20.0 := by
    cases found : data.get? "angle" with
    | none => exact ⟨20.0, .inr (.inr ⟨rfl, rfl⟩)⟩
    | some v =>
      obtain ⟨n, rfl⟩ | ⟨x, rfl⟩ := h.angle v found
      · obtain ⟨x, real⟩ := within n found
        exact ⟨x, .inl ⟨n, rfl, real⟩⟩
      · exact ⟨x, .inr (.inl rfl)⟩
  have name : ∃ name, data.get? "name" = some (.text name) ∨
      data.get? "name" = none ∧ name = default := by
    cases found : data.get? "name" with
    | none => exact ⟨default, .inr ⟨rfl, rfl⟩⟩
    | some v =>
      obtain ⟨name, rfl⟩ := h.name v found
      exact ⟨name, .inl rfl⟩
  obtain ⟨table, rules⟩ := rules
  obtain ⟨x, angle⟩ := angle
  obtain ⟨label, name⟩ := name
  exact ⟨⟨label, s, .ofRules table, x⟩, full, seed, ⟨table, rules, rfl, tableOf_eq_self⟩, angle, name⟩

theorem toJson_keeps (full : d.seed ≠ []) (default : Text) : Keeps d.toJson default d where
  full := full
  seed := rfl
  rules := ⟨d.grammar.rules, .inl rfl, d.grammar.ofRules_rules.symm, fun _ => rfl⟩
  angle := .inr (.inl rfl)
  name := .inl rfl

theorem Keeps.of_agree {other : Json} (keeps : Keeps data default d)
    (agree : ∀ key ∈ ["axiom", "rules", "angle", "name"], other.get? key = data.get? key) :
    Keeps other default d where
  full := keeps.full
  seed := (agree _ (by simp)).trans keeps.seed
  rules := by
    rw [agree "rules" (by simp)]
    exact keeps.rules
  angle := by
    rw [agree "angle" (by simp)]
    exact keeps.angle
  name := by
    rw [agree "name" (by simp)]
    exact keeps.name

/-- Where nothing else is set, a definition builds its system with a step of five points. -/
theorem configured_of_unset (d : Definition) {env : Environment}
    (unset : env "LINDENMAYER_PROGRESS_STEP" = none) :
    LSystem.configured env d.seed d.grammar = .ok (d.build 5) := by
  unfold LSystem.configured Environment.progressStep Environment.integer
  rw [unset]
  rfl

theorem exists_ofJson_iff
    (within : ∀ n, data.get? "angle" = some (.int n) → ∃ x, floatOfInt? n = some x) :
    (∃ d, ofJson data default = .ok d) ↔ WellFormed data := by
  constructor
  · rintro ⟨d, built⟩
    obtain ⟨object, keeps⟩ := ofJson_eq_ok_iff.mp built
    exact .of_keeps object keeps
  · intro formed
    obtain ⟨d, keeps⟩ := formed.exists_keeps within
    exact ⟨d, ofJson_eq_ok_iff.mpr ⟨formed.object, keeps⟩⟩

end

/-- With an angle that is no whole number beyond the largest binary64 number, the well-formed objects
and no other values give a definition. It keeps their content and nothing else of them, starts its
system at its seed, and is given back by its own value; only an empty seed is not. -/
theorem ofJson_exact (data : Json) (default : Text)
    (within : ∀ n, data.get? "angle" = some (.int n) → ∃ x, floatOfInt? n = some x) :
    ((∃ d, ofJson data default = .ok d) ↔ WellFormed data) ∧
    (¬WellFormed data → ∃ fault, ofJson data default = .error (.definition fault)) ∧
    (∀ d, ofJson data default = .ok d → Keeps data default d ∧
      (∀ members, (∀ key ∈ ["axiom", "rules", "angle", "name"],
          (Json.object members).get? key = data.get? key) →
        ofJson (.object members) default = .ok d) ∧
      Grammar.ofValues ((ruleMembers d.grammar.rules).map fun (symbol, replacement) =>
        (.text symbol, replacement)) = .ok d.grammar ∧
      (∀ step, (d.build step).seed = d.seed ∧ (d.build step).word = d.seed ∧
        (d.build step).grammar = d.grammar ∧ (d.build step).generation = 0) ∧
      (∀ env, LSystem.configured env d.seed d.grammar = env.progressStep.map d.build) ∧
      ∀ env : Environment, env "LINDENMAYER_PROGRESS_STEP" = none →
        LSystem.configured env d.seed d.grammar = .ok (d.build 5)) ∧
    ∀ d default', ofJson (toJson d) default' = .ok d ↔ d.seed ≠ [] := by
  refine ⟨exists_ofJson_iff within, ?_, ?_, ?_⟩
  · -- Only an angle beyond the doubles gives neither a definition nor a fault of one.
    intro malformed
    obtain ⟨d, -, -, built, -⟩ | refused | ⟨n, parts, large⟩ := ofJson_cases data default
    · exact (malformed ((exists_ofJson_iff within).mp ⟨d, built⟩)).elim
    · exact refused
    · obtain ⟨x, real⟩ := within n parts.angle
      cases real.symm.trans (floatOfInt?_eq_none_iff.mpr large)
  · intro d built
    obtain ⟨-, keeps⟩ := ofJson_eq_ok_iff.mp built
    refine ⟨keeps, ?_, d.grammar.ofValues_ruleMembers, fun _ => ⟨rfl, rfl, rfl, rfl⟩, fun _ => rfl,
      fun env unset => d.configured_of_unset unset⟩
    intro members agree
    exact ofJson_eq_ok_iff.mpr ⟨⟨members, rfl⟩, keeps.of_agree agree⟩
  · intro d default'
    constructor
    · intro built
      exact (ofJson_eq_ok_iff.mp built).2.full
    · intro full
      exact ofJson_eq_ok_iff.mpr ⟨⟨_, rfl⟩, toJson_keeps full default'⟩

/-- A dragon curve with a whole angle, no name and a member that is not looked at. -/
theorem dragon_value_kept :
    let rules : List (Symbol × Word) := [('X', "X+YF+"), ('Y', "-FX-Y")]
    let members : List (Text × Json) :=
      [("axiom", .text "FX"), ("angle", .int 90), ("rules", .object (ruleMembers rules))]
    let data := Json.object (("colour", .null) :: members)
    let d : Definition := ⟨"dragon", ['F', 'X'], .ofRules rules, 90.0⟩
    (∀ n, data.get? "angle" = some (.int n) → ∃ x, floatOfInt? n = some x) ∧ WellFormed data ∧
      ofJson data "dragon" = .ok d ∧ ofJson (.object members) "dragon" = .ok d ∧
      d.grammar.rules = rules ∧ (d.build 5).word = ['F', 'X'] ∧ (d.build 5).generation = 0 ∧
      ofJson d.toJson "custom" = .ok d := by
  intro rules members data d
  have within : ∀ n, data.get? "angle" = some (.int n) → ∃ x, floatOfInt? n = some x := by
    intro n found
    cases found
    exact ⟨90.0, by decide +kernel⟩
  have built : ofJson data "dragon" = .ok d := by decide +kernel
  obtain ⟨formed, -, content, back⟩ := ofJson_exact data "dragon" within
  obtain ⟨-, ignores, -, starts, -⟩ := content d built
  obtain ⟨-, first, -, unaged⟩ := starts 5
  refine ⟨within, formed.mp ⟨d, built⟩, built, ignores members ?_, rfl, first, unaged,
    (back d _).mpr (by simp [d])⟩
  simp [data, Json.get?, List.lookup_cons]

end Definition

end LSystems
