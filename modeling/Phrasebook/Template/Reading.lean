import Phrasebook.Message.Basic
import Phrasebook.Template.Token.Scan

/-!
# Reading tokens into parts

The grammar of templates, with `?` for optional items:

* message: texts and placeholders up to the end;
* placeholder: `%{`, name, then a format or settings or both, each behind a comma, then the
  closing brace;
* settings: entries separated by commas, with or without braces around them; a comma may follow
  the last entry;
* entry: a colon and a value, or a quoted value without a colon behind it (both for everything
  else), or a key, a colon and a value;
* key: a comparator? and a number or quoted text; `=` or `<>` or none and `null` or `empty`; a truth
  value; a name;
* value: quoted text, a number, a truth value or a word.

A reader takes the tokens from its place on and returns what it read with the tokens left. None
leaves more than it was given, which is why reading ends.
-/

namespace Phrasebook

/-- Result of a reader: what it read and the tokens left. -/
abbrev ReadResult (α : Type) := Except SyntaxError (α × List Token)

/-- The error that blames the first of the tokens. -/
def errorAt (tokens : List Token) (cause : SyntaxCause) : SyntaxError :=
  (tokens.headD default).error cause

/-- The tokens behind the first one, which has to be of a kind. -/
def expectToken (kind : TokenKind) (cause : SyntaxCause) (tokens : List Token) :
    Except SyntaxError (List Token) :=
  match tokens with
  | token :: rest => if token.kind = kind then .ok rest else .error (token.error cause)
  | [] => .error (errorAt [] cause)

/-- Tells whether the first token is of a kind. -/
def startsWith (kind : TokenKind) (tokens : List Token) : Bool :=
  (tokens.head?.map Token.kind) == some kind

/-- A word without quotes as a value. It holds no character that needs an escape, so it is its own
    source form. -/
def QuotedText.ofWord (word : String) : QuotedText := ⟨word, word⟩

/-! ## Values and keys -/

/-- Quoted text from its first quote on. -/
def readQuoted (tokens : List Token) : ReadResult QuotedText :=
  match tokens with
  | start :: content :: rest =>
    match content.kind with
    | .quotedText source =>
      match rest with
      | ⟨.quoteEnd _, _, _, _⟩ :: rest => .ok (⟨source, content.text⟩, rest)
      | _ => .error (start.error .unclosedQuote)
    | _ => .error (content.error .quotedTextExpected)
  | _ => .error (errorAt tokens .quotedTextExpected)

/-- A value. -/
def readValue (tokens : List Token) : ReadResult SettingValue :=
  match tokens with
  | token :: rest =>
    match token.kind with
    | .quoteStart _ => (readQuoted tokens).map fun (quoted, rest) => (.string quoted, rest)
    | .number n => .ok (.number n, rest)
    | .bool b => .ok (.bool b, rest)
    | .name | .null | .empty => .ok (.string (.ofWord token.text), rest)
    | _ => .error (token.error .missingValue)
  | [] => .error (errorAt [] .missingValue)

/-- The comparator in front of a key, with its token. -/
def readComparator : List Token → Option (Token × Comparator) × List Token
  | token :: rest =>
    match token.kind with
    | .comparator relation => (some (token, relation), rest)
    | _ => (none, token :: rest)
  | [] => (none, [])

/-- The relation of a keyword key: only equality and its contrary are allowed. -/
def keywordRelation (mark : Option (Token × Comparator)) (word : String) :
    Except SyntaxError Comparator :=
  match mark with
  | none => .ok .eq
  | some (_, .eq) => .ok .eq
  | some (_, .ne) => .ok .ne
  | some (token, relation) => .error (token.error (.invalidComparator relation word))

/-- A key behind its comparator. -/
def readKeyBehind (mark : Option (Token × Comparator)) (tokens : List Token) :
    ReadResult SettingKey :=
  let relation := (mark.map Prod.snd).getD .eq
  match tokens with
  | token :: rest =>
    match token.kind with
    | .number n => .ok (.number relation n, rest)
    | .quoteStart _ =>
      (readQuoted tokens).map fun (quoted, rest) => (.string relation quoted.text, rest)
    | .null => (keywordRelation mark token.text).map fun relation => (.null relation, rest)
    | .empty => (keywordRelation mark token.text).map fun relation => (.empty relation, rest)
    | .bool b =>
      match mark with
      | some (token, _) => .error (token.error .comparatorNotAllowed)
      | none => .ok (.bool b, rest)
    | .name =>
      match mark with
      | some (token, _) => .error (token.error .comparatorNotAllowed)
      | none => .ok (.name token.text, rest)
    | _ => .error (token.error .missingKey)
  | [] => .error (errorAt [] .missingKey)

/-- A key with its comparator. -/
def readKey (tokens : List Token) : ReadResult SettingKey :=
  let (mark, tokens) := readComparator tokens
  readKeyBehind mark tokens

/-! ## Settings -/

/-- Tells whether quoted text is first that is a value of its own: no colon follows it. -/
def startsQuotedValue (tokens : List Token) : Bool :=
  match tokens with
  | ⟨.quoteStart _, _, _, _⟩ :: _ => !startsWith .colon (tokens.drop 3)
  | _ => false

/-- A value for everything else, added to the settings; the error blames the first of `start`. -/
def readOtherwise (settings : Settings SettingValue) (start tokens : List Token) :
    ReadResult (Settings SettingValue) :=
  match readValue tokens with
  | .error e => .error e
  | .ok (value, rest) =>
    match settings.setOtherwise value with
    | .error _ => .error (errorAt start .duplicateElement)
    | .ok settings => .ok (settings, rest)

/-- An entry, added to the settings. -/
def readEntry (settings : Settings SettingValue) (tokens : List Token) :
    ReadResult (Settings SettingValue) :=
  if startsWith .colon tokens then readOtherwise settings tokens tokens.tail
  else if startsQuotedValue tokens then readOtherwise settings tokens tokens
  else
    match readKey tokens with
    | .error e => .error e
    | .ok (key, rest) =>
      match expectToken .colon .colonExpected rest with
      | .error e => .error e
      | .ok rest =>
        match readValue rest with
        | .error e => .error e
        | .ok (value, rest) =>
          match settings.insert key value with
          | .error _ => .error (errorAt tokens .duplicateElement)
          | .ok settings => .ok (settings, rest)

/-! ## No reader lengthens its input -/

theorem expectToken_rest {kind : TokenKind} {cause : SyntaxCause} {tokens rest : List Token}
    (h : expectToken kind cause tokens = .ok rest) : rest.length < tokens.length := by
  unfold expectToken at h
  split at h
  · split at h
    · simp at h
      simp [h]
    · simp at h
  · simp at h

theorem readQuoted_rest {tokens : List Token} {r : QuotedText × List Token}
    (h : readQuoted tokens = .ok r) : r.2.length < tokens.length := by
  unfold readQuoted at h
  split at h
  · split at h
    · split at h
      · simp at h
        simp [← h]
        omega
      · simp at h
    · simp at h
  · simp at h

theorem readValue_rest {tokens : List Token} {r : SettingValue × List Token}
    (h : readValue tokens = .ok r) : r.2.length < tokens.length := by
  unfold readValue at h
  split at h
  · rename_i token rest
    cases hk : token.kind <;> simp only [hk] at h
    case quoteStart =>
      cases hq : readQuoted (token :: rest) with
      | error e => simp [hq, Except.map] at h
      | ok q =>
        simp [hq, Except.map] at h
        have := readQuoted_rest hq
        simp [← h] at *
        omega
    all_goals simp at h
    all_goals simp [← h]
  · simp at h

theorem readKeyBehind_rest {mark : Option (Token × Comparator)} {tokens : List Token}
    {r : SettingKey × List Token} (h : readKeyBehind mark tokens = .ok r) :
    r.2.length < tokens.length := by
  cases tokens with
  | nil => simp [readKeyBehind] at h
  | cons token rest =>
    cases hk : token.kind <;> simp only [readKeyBehind, hk] at h
    case quoteStart =>
      cases hq : readQuoted (token :: rest) with
      | error e => simp [hq, Except.map] at h
      | ok q =>
        simp [hq, Except.map] at h
        have := readQuoted_rest hq
        simp [← h] at *
        omega
    case null | empty =>
      cases hr : keywordRelation mark token.text with
      | error e => simp [hr, Except.map] at h
      | ok k => simp [hr, Except.map] at h; simp [← h]
    case bool | name => cases mark <;> simp at h; simp [← h]
    all_goals simp at h
    all_goals simp [← h]

theorem readComparator_rest (tokens : List Token) :
    (readComparator tokens).2.length ≤ tokens.length := by
  unfold readComparator
  split
  · split <;> simp
  · simp

theorem readKey_rest {tokens : List Token} {r : SettingKey × List Token}
    (h : readKey tokens = .ok r) : r.2.length < tokens.length :=
  Nat.lt_of_lt_of_le (readKeyBehind_rest h) (readComparator_rest tokens)

theorem readOtherwise_rest {settings : Settings SettingValue} {start tokens : List Token}
    {r : Settings SettingValue × List Token} (h : readOtherwise settings start tokens = .ok r) :
    r.2.length < tokens.length := by
  unfold readOtherwise at h
  split at h
  · simp at h
  · rename_i hv
    have := readValue_rest hv
    split at h
    · simp at h
    · simp at h
      simpa [← h] using this

theorem readEntry_rest {settings : Settings SettingValue} {tokens : List Token}
    {r : Settings SettingValue × List Token} (h : readEntry settings tokens = .ok r) :
    r.2.length < tokens.length := by
  unfold readEntry at h
  split at h
  · have := readOtherwise_rest h
    simp at this
    omega
  split at h
  · exact readOtherwise_rest h
  split at h
  · simp at h
  rename_i hk
  have := readKey_rest hk
  split at h
  · simp at h
  rename_i he
  have := expectToken_rest he
  split at h
  · simp at h
  rename_i hv
  have := readValue_rest hv
  split at h
  · simp at h
  · simp at h
    simp [← h] at *
    omega

/-- Entries separated by commas; a comma in front of the stopping kind ends them too. -/
def readEntries (stop : TokenKind) (settings : Settings SettingValue) (tokens : List Token) :
    ReadResult (Settings SettingValue) :=
  match _h : readEntry settings tokens with
  | .error e => .error e
  | .ok (settings, rest) =>
    if startsWith .comma rest then
      if startsWith stop rest.tail then .ok (settings, rest.tail)
      else readEntries stop settings rest.tail
    else .ok (settings, rest)
termination_by tokens.length
decreasing_by
  have := readEntry_rest _h
  simp at this ⊢
  omega

/-- Settings, with or without braces. -/
def readSettings (tokens : List Token) : ReadResult (Settings SettingValue) :=
  if startsWith .mapStart tokens then
    match readEntries .mapEnd {} tokens.tail with
    | .error e => .error e
    | .ok (settings, rest) =>
      (expectToken .mapEnd .closingBraceExpected rest).map fun rest => (settings, rest)
  else readEntries .placeholderEnd {} tokens

/-! ## Placeholders -/

/-- The name of a placeholder. Keywords are names here. -/
def readName (tokens : List Token) : ReadResult String :=
  match tokens with
  | token :: rest =>
    match token.kind with
    | .name | .bool _ | .null | .empty => .ok (token.text, rest)
    | .placeholderEnd | .comma => .error (token.error .missingName)
    | _ => .error (token.error .invalidName)
  | [] => .error (errorAt [] .invalidName)

/-- Tells whether a name is first that is a format: a comma or the end of the placeholder follows. -/
def startsFormat (tokens : List Token) : Bool :=
  startsWith .name tokens &&
    (startsWith .comma tokens.tail || startsWith .placeholderEnd tokens.tail)

/-- Format and settings behind the name of a placeholder. -/
def readDetails (tokens : List Token) : ReadResult (Option String × Settings SettingValue) :=
  if !startsWith .comma tokens then .ok ((none, {}), tokens)
  else
    let tokens := tokens.tail
    if startsFormat tokens then
      let format := (tokens.headD default).text
      let rest := tokens.tail
      if startsWith .comma rest then
        (readSettings rest.tail).map fun (settings, rest) => ((some format, settings), rest)
      else .ok ((some format, {}), rest)
    else (readSettings tokens).map fun (settings, rest) => ((none, settings), rest)

/-- A placeholder from its opening on. -/
def readPlaceholder (tokens : List Token) : ReadResult Placeholder :=
  match expectToken .placeholderStart .placeholderExpected tokens with
  | .error e => .error e
  | .ok rest =>
    match readName rest with
    | .error e => .error e
    | .ok (name, rest) =>
      match readDetails rest with
      | .error e => .error e
      | .ok ((format, settings), rest) =>
        (expectToken .placeholderEnd .closingBraceExpected rest).map fun rest =>
          (⟨name, format, settings, false, false⟩, rest)

theorem readEntries_rest {stop : TokenKind} {settings : Settings SettingValue}
    {tokens : List Token} {r : Settings SettingValue × List Token}
    (h : readEntries stop settings tokens = .ok r) : r.2.length ≤ tokens.length := by
  induction settings, tokens using readEntries.induct stop generalizing r with
  | case1 settings tokens e he =>
    rw [readEntries] at h
    split at h
    · simp at h
    · simp_all
  | case2 settings tokens settings' rest he hc hs =>
    have := readEntry_rest he
    rw [readEntries] at h
    split at h
    · simp at h
    · rename_i he'
      rw [he] at he'
      simp at he'
      obtain ⟨rfl, rfl⟩ := he'
      simp [hc, hs] at h
      simp [← h] at *
      omega
  | case3 settings tokens settings' rest he hc hs ih =>
    have := readEntry_rest he
    rw [readEntries] at h
    split at h
    · simp at h
    · rename_i he'
      rw [he] at he'
      simp at he'
      obtain ⟨rfl, rfl⟩ := he'
      rw [if_pos hc, if_neg hs] at h
      have := ih h
      simp at *
      omega
  | case4 settings tokens settings' rest he hc =>
    have := readEntry_rest he
    rw [readEntries] at h
    split at h
    · simp at h
    · rename_i he'
      rw [he] at he'
      simp at he'
      obtain ⟨rfl, rfl⟩ := he'
      rw [if_neg hc] at h
      simp at h
      simp [← h] at *
      omega

theorem readSettings_rest {tokens : List Token} {r : Settings SettingValue × List Token}
    (h : readSettings tokens = .ok r) : r.2.length ≤ tokens.length := by
  unfold readSettings at h
  split at h
  · split at h
    · simp at h
    · rename_i he
      have := readEntries_rest he
      rename_i settings rest
      cases hx : expectToken .mapEnd .closingBraceExpected rest with
      | error e => simp [hx, Except.map] at h
      | ok rest' =>
        simp [hx, Except.map] at h
        have := expectToken_rest hx
        simp [← h] at *
        omega
  · exact readEntries_rest h

theorem readName_rest {tokens : List Token} {r : String × List Token}
    (h : readName tokens = .ok r) : r.2.length ≤ tokens.length := by
  unfold readName at h
  split at h
  · split at h
    all_goals simp at h
    all_goals simp [← h]
  · simp at h

theorem readDetails_rest {tokens : List Token}
    {r : (Option String × Settings SettingValue) × List Token}
    (h : readDetails tokens = .ok r) : r.2.length ≤ tokens.length := by
  unfold readDetails at h
  simp only at h
  split at h
  · simp at h
    simp [← h]
  split at h
  · split at h
    · cases hs : readSettings tokens.tail.tail.tail with
      | error e => simp [hs, Except.map] at h
      | ok s =>
        simp [hs, Except.map] at h
        have := readSettings_rest hs
        simp [← h] at *
        omega
    · simp at h
      simp [← h]
      omega
  · cases hs : readSettings tokens.tail with
    | error e => simp [hs, Except.map] at h
    | ok s =>
      simp [hs, Except.map] at h
      have := readSettings_rest hs
      simp [← h] at *
      omega

theorem readPlaceholder_rest {tokens : List Token} {r : Placeholder × List Token}
    (h : readPlaceholder tokens = .ok r) : r.2.length < tokens.length := by
  unfold readPlaceholder at h
  split at h
  · simp at h
  rename_i hp
  have := expectToken_rest hp
  split at h
  · simp at h
  rename_i hn
  have := readName_rest hn
  split at h
  · simp at h
  rename_i format settings rest hd
  have := readDetails_rest hd
  cases hx : expectToken .placeholderEnd .closingBraceExpected rest with
  | error e => simp [hx, Except.map] at h
  | ok rest' =>
    simp [hx, Except.map] at h
    have := expectToken_rest hx
    simp [← h] at *
    omega

/-! ## Parts -/

/-- Texts and placeholders up to the end of the source. -/
def readParts (tokens : List Token) : Except SyntaxError (List Part) :=
  match tokens with
  | [] => .ok []
  | token :: rest =>
    match token.kind with
    | .eof => .ok []
    | .text before after => (readParts rest).map (.literal ⟨token.text, before, after⟩ :: ·)
    | .placeholderStart =>
      match _h : readPlaceholder (token :: rest) with
      | .error e => .error e
      | .ok (place, rest) => (readParts rest).map (.placeholder place :: ·)
    | _ => .error (token.error .unexpectedToken)
termination_by tokens.length
decreasing_by
  · simp
  · exact readPlaceholder_rest _h

end Phrasebook
