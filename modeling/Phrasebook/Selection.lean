import Phrasebook.Locale
import Phrasebook.Number.DecimalText
import Phrasebook.Text.Collation
import Phrasebook.Value

/-!
# Matching keys and selecting entries

A key matches a value more or less strongly. Selection takes the first entry with the strongest
match among the keys of the wanted kinds, and the value for everything else where no key matches.

What a formatter knows about emptiness, and the locale, come in as a `MatchContext`.
-/

namespace Phrasebook

/-- Strength of a match, weakest first. -/
inductive Strength where
  /-- No match. -/
  | mismatch
  /-- A match after conversion, or of a threshold. -/
  | lenient
  /-- A match of the text that a value of another type has. -/
  | equivalent
  /-- A match of equals. -/
  | exact
deriving DecidableEq, Repr, Inhabited

namespace Strength

/-- Position among the strengths. -/
def level : Strength → Nat
  | mismatch => 0
  | lenient => 1
  | equivalent => 2
  | exact => 3

/-- Tells whether this is a match at all. -/
def isMatch (s : Strength) : Bool := s != mismatch

/-- A lenient match if the condition holds. -/
def lenientIf (holds : Bool) : Strength := if holds then lenient else mismatch

/-- An exact match if the condition holds. -/
def exactIf (holds : Bool) : Strength := if holds then exact else mismatch

end Strength

/-- What matching has to know about its surroundings. -/
structure MatchContext where
  /-- The locale, whose decimal separator numbers in strings may use. -/
  locale : Locale
  /-- How well a value matches the keyword `empty` behind a comparator. -/
  matchEmpty : Comparator → Value → Strength

/-! ## Emptiness -/

/-- Any relation but equality holds exactly where equality does not. -/
def unlessEqual (relation : Comparator) (equal : Strength) : Strength :=
  if relation = .eq then equal else .exactIf !equal.isMatch

/-- Emptiness by text: the empty text is exactly empty, a text of spaces leniently. Other values are
    not empty. -/
def matchEmptyText (relation : Comparator) (value : Value) : Strength :=
  match value.text? with
  | some text =>
    unlessEqual relation (if text.isEmpty then .exact else .lenientIf (isSpaces text))
  | none => .lenientIf (relation != .eq)

/-- Emptiness by size. -/
def matchEmptySize (relation : Comparator) (size : Nat) : Strength :=
  unlessEqual relation (.exactIf (size == 0))

/-- The context that decides emptiness by text. -/
def MatchContext.ofLocale (locale : Locale) : MatchContext := ⟨locale, matchEmptyText⟩

/-! ## Numbers in strings -/

/-- Reads a number with the decimal separator of a locale. A point is read everywhere; an exponent
    is not. -/
def readLocalized? (locale : Locale) (text : String) : Option Floating :=
  let cs := text.toList.map fun c => if c = locale.decimalSeparator then '.' else c
  let plain (c : Char) : Bool := isDigit c || c == '.'
  let valid : Bool :=
    match cs with
    | c :: rest => (plain c || c == '-' || c == '+') && rest.all plain
    | [] => true
  if text.toList.any isDigit && valid then FloatFormat.binary64.read? cs else none

/-! ## Keys -/

/-- Matches a truth value. -/
def matchBool (key : Bool) (locale : Locale) (value : Value) : Strength :=
  match value with
  | .bool b => .exactIf (b == key)
  | value =>
    match value.text? with
    | some text =>
      let word := trimBlank text
      if eqIgnoringAsciiCase word "true" || eqIgnoringAsciiCase word "false" then
        if eqIgnoringAsciiCase word (boolText key) then .equivalent else .mismatch
      else
        match readLocalized? locale word with
        | some number => .lenientIf ((!number.isZero) == key)
        | none => .mismatch
    | none =>
      match value.integer?, value.float? with
      | some n, _ => .lenientIf ((n != 0) == key)
      | none, some number => .lenientIf ((!number.isZero) == key)
      | none, none => .mismatch

/-- Strength of a comparison with a number: equal numbers have the given strength, those that lie
    in the right direction match leniently. -/
def compareStrength (relation : Comparator) (identical : Strength) (order : Ordering) : Strength :=
  if !relation.holds order then .mismatch
  else if order = .eq then identical
  else .lenient

/-- Matches an integer. -/
def matchNumber (relation : Comparator) (key : Int64) (locale : Locale) (value : Value) :
    Strength :=
  let keyFloat := FloatFormat.binary64.ofInt key.toInt
  match value.integer?, value.float?, value.text? with
  | some n, _, _ => compareStrength relation .exact (compare n.toInt key.toInt)
  | none, some number, _ =>
    match number.compare? keyFloat with
    | some order => compareStrength relation .exact order
    | none => .mismatch
  | none, none, some text =>
    match (readLocalized? locale (trimBlank text)).bind (·.compare? keyFloat) with
    | some order => compareStrength relation .lenient order
    | none => .mismatch
  | none, none, none => .mismatch

/-- Tells whether two texts are the same in lower case. -/
def sameIgnoringCase (s t : String) : Bool :=
  Unicode.lowercaseText s == Unicode.lowercaseText t

/-- Matches a text, given the strength of equal ones. Equality and its contrary ignore case, the
    other relations follow collation. -/
def matchText (relation : Comparator) (key text : String) (identical : Strength) : Strength :=
  match relation with
  | .eq =>
    if text = key then identical
    else .lenientIf (sameIgnoringCase text key)
  | .ne =>
    if !sameIgnoringCase text key then .lenient
    else if Comparator.ne.holds (collate text key) then identical else .mismatch
  | relation => if relation.holds (collate text key) then identical else .mismatch

/-- Matches a string. Values without a text of their own match by the text that is shown. -/
def matchString (relation : Comparator) (key : String) (value : Value) : Strength :=
  if value.isNull then .mismatch
  else
    match value.text? with
    | some text => matchText relation key text .exact
    | none => matchText relation key value.display .equivalent

/-- Matches the keyword `null`. -/
def matchNull (relation : Comparator) (value : Value) : Strength :=
  unlessEqual relation <|
    match value with
    | .null => .exact
    | .optional none => .lenient
    | _ => .mismatch

/-- Matches a key. -/
def matchKey (context : MatchContext) (value : Value) : SettingKey → Strength
  | .bool key => matchBool key context.locale value
  | .number relation key => matchNumber relation key context.locale value
  | .string relation key => matchString relation key value
  | .name word =>
    match value with
    | .string s => .exactIf (s == word)
    | _ => .mismatch
  | .null relation => matchNull relation value
  | .empty relation =>
    if value.isNull then .lenientIf (relation == .eq) else context.matchEmpty relation value

/-! ## Selection -/

section Selection

variable {V : Type}

/-- Tells whether a match is stronger than the best one so far. -/
def beats (s : Strength) : (best : Option (V × Strength)) → Bool
  | some (_, t) => t.level < s.level
  | none => s.isMatch

/-- The strongest entry: the one found so far gives way to stronger ones only, and an exact match
    ends the search. -/
def strongest (strength : SettingKey → Strength) :
    (best : Option (V × Strength)) → List (SettingKey × V) → Option V
  | best, [] => best.map Prod.fst
  | best, (key, value) :: entries =>
    let s := strength key
    if s = .exact then some value
    else strongest strength (if beats s best then some (value, s) else best) entries

/-- The value of the strongest match among the entries whose keys are of the wanted kinds; if none
    matches and it is wanted, the value for everything else. -/
def Settings.select (settings : Settings V) (kinds : List KeyKind) (otherwise : Bool)
    (strength : SettingKey → Strength) : Option V :=
  let wanted := settings.entries.filter fun entry => entry.1.kind ∈ kinds
  match strongest strength none wanted with
  | some value => some value
  | none => if otherwise then settings.otherwise else none

theorem mem_of_strongest {strength : SettingKey → Strength} {best : Option (V × Strength)}
    {entries : List (SettingKey × V)} {value : V}
    (h : strongest strength best entries = some value) :
    best.map Prod.fst = some value ∨ value ∈ entries.map Prod.snd := by
  induction entries generalizing best with
  | nil => exact .inl h
  | cons entry entries ih =>
    obtain ⟨key, v⟩ := entry
    simp only [strongest] at h
    split at h
    · simp at h
      exact .inr (by simp [h])
    · rcases ih h with h | h
      · split at h
        · simp at h
          exact .inr (by simp [h])
        · exact .inl h
      · exact .inr (by simp at h ⊢; exact .inr h)

/-- What is selected is one of the values. -/
theorem Settings.mem_values_of_select {settings : Settings V} {kinds : List KeyKind}
    {otherwise : Bool} {strength : SettingKey → Strength} {value : V}
    (h : settings.select kinds otherwise strength = some value) : value ∈ settings.values := by
  simp only [Settings.select] at h
  simp only [Settings.values, List.mem_append]
  split at h
  · rename_i v hs
    simp at h
    subst h
    rcases mem_of_strongest hs with hs | hs
    · simp at hs
    · refine .inl ?_
      simp only [List.mem_map, List.mem_filter] at hs
      obtain ⟨entry, ⟨he, -⟩, rfl⟩ := hs
      exact List.mem_map_of_mem he
  · split at h
    · exact .inr (by simp [h])
    · simp at h

end Selection

end Phrasebook
