import LSystems.JsonReader
import Mathlib.Data.List.Infix
import Mathlib.Tactic.SplitIfs

namespace LSystems

theorem scanQuoted_suffix {place : QuotePlace} {done units : List Nat} {text tail : List Char}
    (h : scanQuoted place done text = some (units, tail)) : tail <:+ text := by
  induction text generalizing place done with
  | nil => cases h
  | cons c rest ih =>
    have later {place : QuotePlace} {done : List Nat}
        (h : scanQuoted place done rest = some (units, tail)) : tail <:+ c :: rest :=
      (ih h).trans (List.suffix_cons c rest)
    cases place with
    | between =>
      simp only [scanQuoted] at h
      split_ifs at h
      · cases h
        exact List.suffix_cons _ _
      · exact later h
      · exact later h
    | escape =>
      simp only [scanQuoted] at h
      split_ifs at h
      · exact later h
      · split at h
        next => exact later h
        next => cases h
    | unit left value =>
      simp only [scanQuoted] at h
      split at h
      next => cases h
      next =>
        split_ifs at h
        · exact later h
        · exact later h

theorem afterWord?_suffix {word : String} {text tail : List Char}
    (h : afterWord? word text = some tail) : tail <:+ text := by
  unfold afterWord? at h
  split_ifs at h
  cases h
  exact List.drop_suffix _ _

theorem scanFraction_suffix {text digits tail : List Char}
    (h : scanFraction text = some (digits, tail)) : tail <:+ text := by
  unfold scanFraction at h
  split at h
  next rest =>
    dsimp only at h
    split_ifs at h
    cases h
    exact (List.dropWhile_suffix _).trans (List.suffix_cons _ _)
  next => cases h

theorem splitSign_suffix (text : List Char) : (splitSign text).2 <:+ text := by
  unfold splitSign
  split
  · exact List.suffix_cons _ _
  · exact List.suffix_cons _ _
  · exact List.suffix_rfl

theorem scanExponent_suffix {text tail : List Char} {n : Int}
    (h : scanExponent text = some (n, tail)) : tail <:+ text := by
  unfold scanExponent at h
  split at h
  next => cases h
  next c rest =>
    split at h
    next =>
      dsimp only at h
      split at h
      next => cases h
      next =>
        cases h
        exact (List.dropWhile_suffix _).trans ((splitSign_suffix rest).trans (List.suffix_cons _ _))
    next => cases h

theorem scanNumber_suffix (negative : Bool) (text : List Char) :
    (scanNumber negative text).2 <:+ text := by
  have afterFraction (rest : List Char) :
      ((scanFraction rest).map Prod.snd).getD rest <:+ rest := by
    cases found : scanFraction rest with
    | none => exact List.suffix_rfl
    | some part => exact scanFraction_suffix found
  have afterExponent (rest : List Char) :
      ((scanExponent rest).map Prod.snd).getD rest <:+ rest := by
    cases found : scanExponent rest with
    | none => exact List.suffix_rfl
    | some part => exact scanExponent_suffix found
  unfold scanNumber
  dsimp only
  generalize (if (text.takeWhile isAsciiDigit).head? = some '0' then ['0']
    else text.takeWhile isAsciiDigit) = whole
  have dropped : text.drop whole.length <:+ text := List.drop_suffix _ _
  split
  · exact List.nil_suffix
  · split
    · split
      · exact dropped
      · exact dropped
    · exact (afterExponent _).trans ((afterFraction _).trans dropped)

theorem nextToken_suffix (c : Char) (rest : List Char) : (nextToken c rest).2 <:+ c :: rest := by
  unfold nextToken
  split
  · exact List.suffix_cons _ _
  · exact List.suffix_cons _ _
  · exact List.suffix_cons _ _
  · exact List.suffix_cons _ _
  · exact List.suffix_cons _ _
  · exact List.suffix_cons _ _
  · split
    next units tail scanned => exact (scanQuoted_suffix scanned).trans (List.suffix_cons _ _)
    next => exact List.nil_suffix
  · split
    next found word =>
      obtain ⟨⟨name, value⟩, -, after⟩ := List.exists_of_findSome?_eq_some word
      obtain ⟨tail, kept, rfl⟩ := Option.map_eq_some_iff.mp after
      exact afterWord?_suffix kept
    next =>
      split_ifs
      · exact (scanNumber_suffix true rest).trans (List.suffix_cons _ _)
      · exact scanNumber_suffix false _
      · exact List.nil_suffix

/-- Whether a token opens an array or an object. -/
def JsonToken.opens : JsonToken → Bool
  | openArray => true
  | openObject => true
  | _ => false

/-- Digits in a row, more than a whole number may have. -/
structure DigitRun (digits text : List Char) : Prop where
  inside : digits <:+: text
  digit : ∀ c ∈ digits, isAsciiDigit c = true
  long : maxIntegerDigits < digits.length

theorem DigitRun.of_suffix {digits tail text : List Char} (h : DigitRun digits tail)
    (suffix : tail <:+ text) : DigitRun digits text :=
  ⟨h.inside.trans suffix.isInfix, h.digit, h.long⟩

theorem scanNumber_cases (negative : Bool) (text : List Char) :
    (scanNumber negative text).1 = .invalid ∨ (∃ v, (scanNumber negative text).1 = .atom v) ∨
      ∃ digits, DigitRun digits text ∧ (scanNumber negative text).1 = .tooLong digits.length := by
  let all := text.takeWhile isAsciiDigit
  have first : (if all.head? = some '0' then ['0'] else all) <+: all := by
    split
    next zero =>
      cases shape : all with
      | nil =>
        rw [shape] at zero
        cases zero
      | cons c rest =>
        rw [shape] at zero
        cases zero
        exact List.prefix_append ['0'] rest
    next => exact List.prefix_rfl
  unfold scanNumber
  dsimp only
  -- All that counts of the whole part is that it begins the digits.
  generalize (if all.head? = some '0' then ['0'] else all) = whole at first ⊢
  split
  next => exact .inl rfl
  next =>
    refine .inr ?_
    split
    next =>
      split
      next long =>
        have digit : ∀ c ∈ whole, isAsciiDigit c = true := by
          intro c member
          exact List.all_eq_true.mp List.all_takeWhile c (first.subset member)
        have inside : whole <:+: text := (first.trans (List.takeWhile_prefix _)).isInfix
        exact .inr ⟨whole, ⟨inside, digit, long⟩, rfl⟩
      next => exact .inl ⟨_, rfl⟩
    next => exact .inl ⟨_, rfl⟩

/-- A token that opens is one bracket; the other tokens do not open, and a whole number among them
is too long when the text has that many digits in a row. -/
theorem nextToken_cases (c : Char) (rest : List Char) :
    ((c = '[' ∨ c = '\x7b') ∧ (nextToken c rest).2 = rest) ∨
    ((nextToken c rest).1.opens = false ∧ ∀ k, (nextToken c rest).1 = .tooLong k →
      ∃ digits, DigitRun digits (c :: rest) ∧ digits.length = k) := by
  have number (negative : Bool) {text : List Char} (suffix : text <:+ c :: rest) :
      (scanNumber negative text).1.opens = false ∧ ∀ k, (scanNumber negative text).1 = .tooLong k →
        ∃ digits, DigitRun digits (c :: rest) ∧ digits.length = k := by
    obtain read | ⟨v, read⟩ | ⟨digits, run, read⟩ := scanNumber_cases negative text
    · rw [read]
      exact ⟨rfl, nofun⟩
    · rw [read]
      exact ⟨rfl, nofun⟩
    · rw [read]
      refine ⟨rfl, ?_⟩
      rintro k ⟨⟩
      exact ⟨digits, run.of_suffix suffix, rfl⟩
  unfold nextToken
  split
  · exact .inl ⟨.inl rfl, rfl⟩
  · exact .inr ⟨rfl, nofun⟩
  · exact .inl ⟨.inr rfl, rfl⟩
  · exact .inr ⟨rfl, nofun⟩
  · exact .inr ⟨rfl, nofun⟩
  · exact .inr ⟨rfl, nofun⟩
  · refine .inr ?_
    split
    · exact ⟨rfl, nofun⟩
    · exact ⟨rfl, nofun⟩
  · refine .inr ?_
    split
    next found word =>
      obtain ⟨⟨name, value⟩, -, after⟩ := List.exists_of_findSome?_eq_some word
      obtain ⟨tail, kept, rfl⟩ := Option.map_eq_some_iff.mp after
      exact ⟨rfl, nofun⟩
    next =>
      split
      · exact number true (List.suffix_cons c rest)
      · split
        · exact number false List.suffix_rfl
        · exact ⟨rfl, nofun⟩

theorem digitRun_of_mem_jsonTokensWithin {fuel k : Nat} {text : List Char}
    (member : .tooLong k ∈ jsonTokensWithin fuel text) :
    ∃ digits, DigitRun digits text ∧ digits.length = k := by
  induction fuel generalizing text with
  | zero =>
    cases text with
    | nil => cases member
    | cons c rest => cases List.mem_singleton.mp member
  | succ fuel ih =>
    cases text with
    | nil => cases member
    | cons c rest =>
      have onward {tail : List Char} (suffix : tail <:+ c :: rest)
          (later : .tooLong k ∈ jsonTokensWithin fuel tail) :
          ∃ digits, DigitRun digits (c :: rest) ∧ digits.length = k := by
        obtain ⟨digits, run, count⟩ := ih later
        exact ⟨digits, run.of_suffix suffix, count⟩
      simp only [jsonTokensWithin] at member
      split at member
      next => exact onward (List.suffix_cons c rest) member
      next =>
        rcases List.mem_cons.mp member with now | later
        · obtain ⟨bracket, -⟩ | ⟨-, number⟩ := nextToken_cases c rest
          · rcases bracket with rfl | rfl <;> cases now
          · exact number k now.symm
        · exact onward (nextToken_suffix c rest) later

/-- A bracket that opens an array or an object. -/
def isOpeningBracket (c : Char) : Bool :=
  c == '[' || c == '\x7b'

theorem countP_opens_jsonTokensWithin (fuel : Nat) (text : List Char) :
    (jsonTokensWithin fuel text).countP JsonToken.opens ≤ text.countP isOpeningBracket := by
  induction fuel generalizing text with
  | zero =>
    cases text with
    | nil => exact Nat.le_refl 0
    | cons c rest => exact Nat.zero_le _
  | succ fuel ih =>
    cases text with
    | nil => exact Nat.le_refl 0
    | cons c rest =>
      have shrinks {tail : List Char} (suffix : tail <:+ c :: rest) :
          (jsonTokensWithin fuel tail).countP JsonToken.opens
            ≤ (c :: rest).countP isOpeningBracket :=
        (ih tail).trans (suffix.sublist.countP_le)
      simp only [jsonTokensWithin]
      split
      next => exact shrinks (List.suffix_cons c rest)
      next =>
        obtain ⟨bracket, tail⟩ | ⟨closed, -⟩ := nextToken_cases c rest
        · have opening : isOpeningBracket c = true := by
            rcases bracket with rfl | rfl <;> rfl
          have later := ih rest
          rw [tail, List.countP_cons, List.countP_cons, opening, if_pos rfl]
          split <;> omega
        · rw [List.countP_cons_of_neg (by simp [closed])]
          exact shrinks (nextToken_suffix c rest)

/-- Where a reader stands after some tokens. -/
def readTokens (depth : Nat) (place : JsonPlace) (parts : List JsonPart) :
    List JsonToken → Except JsonFault (JsonPlace × List JsonPart)
  | [] => .ok (place, parts)
  | token :: rest =>
    match nextPlace depth place token parts with
    | .ok (place, parts) => readTokens depth place parts rest
    | .error e => .error e

section
variable {depth : Nat} {place place' : JsonPlace} {parts parts' : List JsonPart}
  {before : List JsonToken}
  {token : JsonToken} {e : JsonFault}

theorem buildJson_of_fails (after : List JsonToken)
    (reached : readTokens depth place parts before = .ok (place', parts'))
    (fails : nextPlace depth place' token parts' = .error e) :
    buildJson depth place parts (before ++ token :: after) = .error e := by
  induction before generalizing place parts with
  | nil =>
    cases reached
    simp only [List.nil_append, buildJson, fails]
  | cons first rest ih =>
    simp only [readTokens] at reached
    split at reached
    next onward =>
      simp only [List.cons_append, buildJson, onward]
      exact ih reached
    next => cases reached

/-- A value fails to be read at a token, or because the tokens end before it does. -/
theorem buildJson_error {tokens : List JsonToken} (h : buildJson depth place parts tokens = .error e) :
    e = .invalid ∨ ∃ before token after place' parts', tokens = before ++ token :: after ∧
      readTokens depth place parts before = .ok (place', parts') ∧
      nextPlace depth place' token parts' = .error e := by
  induction tokens generalizing place parts with
  | nil =>
    left
    unfold buildJson at h
    split at h
    · cases h
    · cases h
      rfl
    · contradiction
  | cons first rest ih =>
    simp only [buildJson] at h
    split at h
    next next_place next_parts onward =>
      obtain early | ⟨before, token, after, place', parts', split, reached, fails⟩ := ih h
      · exact .inl early
      · refine .inr ⟨first :: before, token, after, place', parts', ?_, ?_, fails⟩
        · rw [split, List.cons_append]
        · simp only [readTokens, onward, reached]
    next fails =>
      cases h
      exact .inr ⟨[], first, rest, place, parts, rfl, rfl, fails⟩

end

/-- Whether a value may stand at a place. -/
def JsonPlace.takesValue : JsonPlace → Bool
  | value => true
  | firstItem => true
  | _ => false

/-- A token at which a reader gives up on a text that may well be a JSON value. -/
inductive JsonToken.Overtaxes (depth inside : Nat) : JsonToken → JsonFault → Prop
  | number (digits : Nat) : Overtaxes depth inside (.tooLong digits) (.tooLong digits)
  | array (deep : depth ≤ inside) : Overtaxes depth inside .openArray (.tooDeep "array")
  | object (deep : depth ≤ inside) : Overtaxes depth inside .openObject (.tooDeep "object")

section
variable {depth : Nat} {place place' : JsonPlace} {parts parts' : List JsonPart}
  {token : JsonToken} {e : JsonFault}

theorem beginValue_error_iff (grave : e ≠ .invalid) :
    beginValue depth token parts = .error e ↔ token.Overtaxes depth (jsonDepth parts) e := by
  unfold beginValue
  constructor
  · intro fails
    split at fails
    next => cases fails
    next => cases fails
    next =>
      split at fails
      next deep =>
        cases fails
        exact .array deep
      next => cases fails
    next =>
      split at fails
      next deep =>
        cases fails
        exact .object deep
      next => cases fails
    next digits =>
      cases fails
      exact .number digits
    next =>
      cases fails
      exact (grave rfl).elim
  · intro overtaxes
    cases overtaxes with
    | number digits => rfl
    | array deep => exact if_pos deep
    | object deep => exact if_pos deep

theorem continueParts_error (fails : continueParts token parts = .error e) : e = .invalid := by
  unfold continueParts at fails
  split at fails
  next => cases fails
  next => cases fails
  next => cases fails
  next => cases fails
  next =>
    cases fails
    rfl

theorem nextPlace_error_iff (grave : e ≠ .invalid) :
    nextPlace depth place token parts = .error e ↔
      place.takesValue = true ∧ token.Overtaxes depth (jsonDepth parts) e := by
  have begins : beginValue depth token parts = .error e ↔ token.Overtaxes depth (jsonDepth parts) e :=
    beginValue_error_iff grave
  constructor
  · intro fails
    unfold nextPlace at fails
    split at fails
    next => exact ⟨rfl, begins.mp fails⟩
    next => cases fails
    next => exact ⟨rfl, begins.mp fails⟩
    next => cases fails
    next => cases fails
    next => cases fails
    next => cases fails
    next => exact (grave (continueParts_error fails)).elim
    next =>
      cases fails
      exact (grave rfl).elim
  · rintro ⟨awaited, overtaxes⟩
    have fails := begins.mpr overtaxes
    cases place with
    | value => exact fails
    | firstItem =>
      -- No token at which a reader gives up closes the array.
      cases overtaxes <;> exact fails
    | _ => cases awaited

@[simp]
theorem jsonDepth_array (items : List Json) (parts : List JsonPart) :
    jsonDepth (.array items :: parts) = jsonDepth parts + 1 :=
  List.countP_cons_of_pos rfl

@[simp]
theorem jsonDepth_object (members : List (Text × Json)) (parts : List JsonPart) :
    jsonDepth (.object members :: parts) = jsonDepth parts + 1 :=
  List.countP_cons_of_pos rfl

@[simp]
theorem jsonDepth_member (key : Text) (parts : List JsonPart) :
    jsonDepth (.member key :: parts) = jsonDepth parts := rfl

theorem jsonDepth_deliver {v : Json} (h : deliver v parts = (place', parts')) :
    jsonDepth parts' = jsonDepth parts := by
  unfold deliver at h
  split at h
  next =>
    cases h
    rfl
  next =>
    cases h
    rfl
  next =>
    cases h
    rfl

/-- Whether a token closes an array or an object. -/
def JsonToken.closes : JsonToken → Bool
  | closeArray => true
  | closeObject => true
  | _ => false

theorem jsonDepth_beginValue (h : beginValue depth token parts = .ok (place', parts')) :
    jsonDepth parts' + [token].countP JsonToken.closes
      = jsonDepth parts + [token].countP JsonToken.opens := by
  unfold beginValue at h
  split at h
  next => exact jsonDepth_deliver (Except.ok.inj h)
  next => exact jsonDepth_deliver (Except.ok.inj h)
  next =>
    split at h
    next => cases h
    next =>
      cases h
      exact jsonDepth_array [] parts
  next =>
    split at h
    next => cases h
    next =>
      cases h
      exact jsonDepth_object [] parts
  next => cases h
  next => cases h

theorem jsonDepth_continueParts (h : continueParts token parts = .ok (place', parts')) :
    jsonDepth parts' + [token].countP JsonToken.closes
      = jsonDepth parts + [token].countP JsonToken.opens := by
  unfold continueParts at h
  split at h
  next =>
    cases h
    rfl
  next =>
    cases h
    rfl
  next items rest =>
    rw [jsonDepth_deliver (Except.ok.inj h), jsonDepth_array]
    rfl
  next members rest =>
    rw [jsonDepth_deliver (Except.ok.inj h), jsonDepth_object]
    rfl
  next => cases h

/-- A token changes the depth by the bracket that it is. -/
theorem jsonDepth_nextPlace (h : nextPlace depth place token parts = .ok (place', parts')) :
    jsonDepth parts' + [token].countP JsonToken.closes
      = jsonDepth parts + [token].countP JsonToken.opens := by
  unfold nextPlace at h
  split at h
  next => exact jsonDepth_beginValue h
  next =>
    rw [jsonDepth_deliver (Except.ok.inj h), jsonDepth_array]
    rfl
  next => exact jsonDepth_beginValue h
  next =>
    rw [jsonDepth_deliver (Except.ok.inj h), jsonDepth_object]
    rfl
  next =>
    cases h
    rfl
  next =>
    cases h
    rfl
  next key =>
    cases h
    exact jsonDepth_member key parts
  next => exact jsonDepth_continueParts h
  next => cases h

theorem jsonDepth_readTokens {tokens : List JsonToken}
    (h : readTokens depth place parts tokens = .ok (place', parts')) :
    jsonDepth parts' + tokens.countP JsonToken.closes
      = jsonDepth parts + tokens.countP JsonToken.opens := by
  induction tokens generalizing place parts with
  | nil =>
    cases h
    rfl
  | cons token rest ih =>
    simp only [readTokens] at h
    split at h
    next onward =>
      have one := jsonDepth_nextPlace onward
      have later := ih h
      rw [List.countP_cons, List.countP_cons]
      simp only [List.countP_singleton] at one
      omega
    next => cases h

theorem readJson_ofList (text : List Char) :
    readJson depth (String.ofList text) = buildJson depth .value [] (jsonTokens text) := by
  unfold readJson
  rw [String.toList_ofList]

theorem readJson_of_overtaxes {text : String} {before after : List JsonToken}
    (tokens : jsonTokens text.toList = before ++ token :: after)
    (reached : readTokens depth .value [] before = .ok (place, parts))
    (awaited : place.takesValue = true)
    (overtaxes : token.Overtaxes depth (jsonDepth parts) e) : readJson depth text = .error e := by
  have grave : e ≠ .invalid := by
    rintro rfl
    cases overtaxes
  unfold readJson
  rw [tokens]
  exact buildJson_of_fails after reached ((nextPlace_error_iff grave).mpr ⟨awaited, overtaxes⟩)

/-- A text is given up where a value may stand, at a number or at a bracket. -/
theorem exists_overtaxes_of_readJson {text : String} (failed : readJson depth text = .error e)
    (grave : e ≠ .invalid) : ∃ before token after place parts,
      jsonTokens text.toList = before ++ token :: after ∧
      readTokens depth .value [] before = .ok (place, parts) ∧ place.takesValue = true ∧
      token.Overtaxes depth (jsonDepth parts) e := by
  obtain early | ⟨before, token, after, place, parts, tokens, reached, fails⟩ :=
    buildJson_error failed
  · exact (grave early).elim
  · obtain ⟨awaited, overtaxes⟩ := (nextPlace_error_iff grave).mp fails
    exact ⟨before, token, after, place, parts, tokens, reached, awaited, overtaxes⟩

end

end LSystems
