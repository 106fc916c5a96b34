import Phrasebook.Number.Integer
import Phrasebook.Text.Escape
import Phrasebook.Text.Spacing
import Phrasebook.Template.Token

/-!
# Scanning a template into tokens

Outside of placeholders the source is literal text in which runs of whitespace collapse; inside a
placeholder and its maps whitespace separates tokens and is skipped. A scanner is a function of the
characters left; the offset of a place is the length of the source less what is left there.

Every scanning step shortens what is left (`scanStep_rest_lt`), so scanning ends. What a step can read
is said once, by `scanStep_cases` and `PlaceholderStep`, and `scanTokens_induction` carries a property
of steps over to a whole source.
-/

namespace Phrasebook

/-- A refused source: the cause and what was left where the offending input starts and stops. -/
structure ScanFailure where
  /-- What is wrong. -/
  cause : SyntaxCause
  /-- The characters left at the start of the offending input. -/
  start : List Char
  /-- The characters left at its stop. -/
  stop : List Char

namespace ScanFailure

/-- The syntax error in a source of `size` characters. -/
def toError (size : Nat) (failure : ScanFailure) : SyntaxError :=
  ⟨failure.cause, Span.between (size - failure.start.length) (size - failure.stop.length)⟩

/-- The failure of an escape sequence whose backslash is the first of the characters `start`. -/
def ofEscape (start : List Char) (failure : EscapeFailure) : ScanFailure :=
  match failure.fault with
  | .incomplete => ⟨.incompleteEscape, start, failure.rest⟩
  | .invalidUnicode => ⟨.invalidUnicodeEscape, start, failure.rest⟩

end ScanFailure

/-! ## Literal text -/

/-- Literal characters of a text run, whether whitespace ends it, and what is left. -/
structure TextRun where
  /-- The characters, escapes resolved and whitespace collapsed. -/
  content : List Char
  /-- Whitespace stands behind the last character. -/
  spaceAfter : Bool
  /-- The characters left. -/
  rest : List Char

/-- Puts a character in front of a run, behind a space if one is pending. -/
def TextRun.cons (pending : Bool) (c : Char) (run : TextRun) : TextRun :=
  { run with content := if pending then ' ' :: c :: run.content else c :: run.content }

/-- Reads literal text up to the next placeholder. The flag tells that whitespace was skipped
    since the last character. -/
def scanText (pending : Bool) : List Char → Except ScanFailure TextRun
  | [] => .ok ⟨[], pending, []⟩
  | c :: cs =>
    if c = '%' ∧ cs.head? = some '{' then .ok ⟨[], pending, c :: cs⟩
    else if isWhitespace c then scanText true cs
    else if c = '\\' then
      match _h : readEscape cs with
      | .error failure => .error (.ofEscape (c :: cs) failure)
      | .ok (d, rest) => (scanText false rest).map (.cons pending d)
    else (scanText false cs).map (.cons pending c)
termination_by cs => cs.length
decreasing_by
  · simp
  · have := readEscape_rest_lt _h
    simp at this ⊢
    omega
  · simp

/-! ## Quoted text -/

/-- Reads text up to the closing quote: the characters with escapes resolved and what is left,
    from the quote on. -/
def scanQuoted (quote : Quote) (opening : List Char) :
    List Char → Except ScanFailure (List Char × List Char)
  | [] => .error ⟨.unclosedQuote, opening, []⟩
  | c :: cs =>
    if c = quote.char then .ok ([], c :: cs)
    else if c = '\\' then
      match _h : readEscape cs with
      | .error failure => .error (.ofEscape (c :: cs) failure)
      | .ok (d, rest) => (scanQuoted quote opening rest).map fun r => (d :: r.1, r.2)
    else (scanQuoted quote opening cs).map fun r => (c :: r.1, r.2)
termination_by cs => cs.length
decreasing_by
  · have := readEscape_rest_lt _h
    simp at this ⊢
    omega
  · simp

/-! ## At an escape sequence -/

theorem scanText_of_readEscape {pending : Bool} {cs rest : List Char} {d : Char}
    (h : readEscape cs = .ok (d, rest)) :
    scanText pending ('\\' :: cs) = (scanText false rest).map (.cons pending d) := by
  have hopen : ¬('\\' = '%' ∧ cs.head? = some '{') := by simp
  have hspace : ¬ isWhitespace '\\' = true := by decide
  rw [scanText, if_neg hopen, if_neg hspace, if_pos rfl]
  split
  · rename_i failure hf
    cases h.symm.trans hf
  · rename_i d' rest' hr
    obtain ⟨rfl, rfl⟩ := Prod.mk.inj (Except.ok.inj (h.symm.trans hr))
    rfl

theorem scanText_of_readEscape_error {pending : Bool} {cs : List Char} {failure : EscapeFailure}
    (h : readEscape cs = .error failure) :
    scanText pending ('\\' :: cs) = .error (.ofEscape ('\\' :: cs) failure) := by
  have hopen : ¬('\\' = '%' ∧ cs.head? = some '{') := by simp
  have hspace : ¬ isWhitespace '\\' = true := by decide
  rw [scanText, if_neg hopen, if_neg hspace, if_pos rfl]
  split
  · rename_i failure' hf
    obtain rfl := Except.error.inj (h.symm.trans hf)
    rfl
  · rename_i d rest hr
    cases h.symm.trans hr

/-- A backslash is no quote. -/
theorem Quote.char_ne_backslash (quote : Quote) : ¬ '\\' = quote.char := by
  cases quote <;> decide

theorem scanQuoted_of_readEscape {quote : Quote} {opening cs rest : List Char} {d : Char}
    (h : readEscape cs = .ok (d, rest)) :
    scanQuoted quote opening ('\\' :: cs) =
      (scanQuoted quote opening rest).map fun r => (d :: r.1, r.2) := by
  rw [scanQuoted, if_neg quote.char_ne_backslash, if_pos rfl]
  split
  · rename_i failure hf
    cases h.symm.trans hf
  · rename_i d' rest' hr
    obtain ⟨rfl, rfl⟩ := Prod.mk.inj (Except.ok.inj (h.symm.trans hr))
    rfl

theorem scanQuoted_of_readEscape_error {quote : Quote} {opening cs : List Char}
    {failure : EscapeFailure} (h : readEscape cs = .error failure) :
    scanQuoted quote opening ('\\' :: cs) = .error (.ofEscape ('\\' :: cs) failure) := by
  rw [scanQuoted, if_neg quote.char_ne_backslash, if_pos rfl]
  split
  · rename_i failure' hf
    obtain rfl := Except.error.inj (h.symm.trans hf)
    rfl
  · rename_i d rest hr
    cases h.symm.trans hr

/-! ## Words -/

/-- The kind of a word. Truth values are recognised in any case, the other keywords are not. -/
def TokenKind.ofWord (word : String) : TokenKind :=
  if eqIgnoringAsciiCase word "true" then .bool true
  else if eqIgnoringAsciiCase word "false" then .bool false
  else if word = "null" then .null
  else if word = "empty" then .empty
  else .name

/-! ## Tokens -/

/-- Where the scanner stands. -/
inductive ScanMode where
  /-- In literal text. -/
  | text
  /-- In a placeholder that opened at an offset, with so many maps open. -/
  | placeholder (opened maps : Nat)
deriving DecidableEq, Repr

/-- Tokens that one step has read, the mode behind them, and what is left. -/
structure ScanStep where
  /-- The tokens. -/
  tokens : List Token
  /-- The mode behind them. -/
  mode : ScanMode
  /-- The characters left. -/
  rest : List Char

/-- The token between two places, given by what is left there. -/
def Token.between (size : Nat) (kind : TokenKind) (text : String) (start stop : List Char) :
    Token :=
  ⟨kind, size - start.length, size - stop.length, text⟩

/-- One step in literal text: the opening of a placeholder or a run of text. -/
def scanTextStep (size : Nat) (cs : List Char) : Except ScanFailure ScanStep :=
  match cs with
  | '%' :: '{' :: rest =>
    .ok ⟨[.between size .placeholderStart "%\x7b" cs rest], .placeholder (size - cs.length) 0, rest⟩
  | _ =>
    (scanText false (cs.dropWhile isWhitespace)).map fun run =>
      let spaceBefore := (cs.head?.map isWhitespace).getD false
      let spaceAfter := if run.content.isEmpty then spaceBefore else run.spaceAfter
      ⟨[.between size (.text spaceBefore spaceAfter) (String.ofList run.content) cs run.rest],
        .text, run.rest⟩

/-- A quote, the text behind it and the closing quote. -/
def scanQuotedTokens (size : Nat) (quote : Quote) (opening content : List Char) :
    Except ScanFailure (List Token × List Char) :=
  (scanQuoted quote opening content).map fun (text, closing) =>
    let source := content.take (content.length - closing.length)
    let mark := String.ofList [quote.char]
    ([.between size (.quoteStart quote) mark opening content,
      .between size (.quotedText (String.ofList source)) (String.ofList text) content closing,
      .between size (.quoteEnd quote) mark closing closing.tail],
      closing.tail)

/-- An integer, given its sign and the characters from its first digit on. -/
def scanNumber (size : Nat) (negative : Bool) (cs digits : List Char) :
    Except ScanFailure (Token × List Char) :=
  let written := digits.takeWhile isDigit
  let rest := digits.dropWhile isDigit
  match int64OfInt? (signedValue negative written) with
  | some n =>
    let source := if negative then '-' :: written else written
    .ok (.between size (.number n) (String.ofList source) cs rest, rest)
  | none => .error ⟨.numberOutOfRange, cs, rest⟩

/-- The comparator that begins with a character, and whether the next one belongs to it. -/
def comparatorAt? (c : Char) (next : Option Char) : Option (Comparator × Bool) :=
  match c, next with
  | '=', _ => some (.eq, false)
  | '!', _ => some (.ne, false)
  | '<', some '>' => some (.ne, true)
  | '<', some '=' => some (.le, true)
  | '<', _ => some (.lt, false)
  | '>', some '=' => some (.ge, true)
  | '>', _ => some (.gt, false)
  | _, _ => none

/-- The kind of a single punctuation character and the mode behind it. -/
def punctuationAt? (c : Char) (opened maps : Nat) : Option (TokenKind × ScanMode) :=
  match c, maps with
  | '\x7d', maps + 1 => some (.mapEnd, .placeholder opened maps)
  | '\x7d', 0 => some (.placeholderEnd, .text)
  | '\x7b', maps => some (.mapStart, .placeholder opened (maps + 1))
  | ',', maps => some (.comma, .placeholder opened maps)
  | ':', maps => some (.colon, .placeholder opened maps)
  | _, _ => none

/-- The quote that a character is. -/
def quoteAt? : Char → Option Quote
  | '\'' => some .single
  | '"' => some .double
  | _ => none

/-- One step inside a placeholder, at the character `c`, which is no whitespace. -/
def scanPlaceholderStep (size opened maps : Nat) (c : Char) (cs : List Char) :
    Except ScanFailure ScanStep :=
  let mode := ScanMode.placeholder opened maps
  if let some (kind, mode) := punctuationAt? c opened maps then
    .ok ⟨[.between size kind (String.ofList [c]) (c :: cs) cs], mode, cs⟩
  else if let some quote := quoteAt? c then
    (scanQuotedTokens size quote (c :: cs) cs).map fun (tokens, rest) => ⟨tokens, mode, rest⟩
  else if let some (relation, two) := comparatorAt? c cs.head? then
    let rest := if two then cs.tail else cs
    let source := if two then c :: cs.take 1 else [c]
    .ok ⟨[.between size (.comparator relation) (String.ofList source) (c :: cs) rest], mode, rest⟩
  else if isDigit c then
    (scanNumber size false (c :: cs) (c :: cs)).map fun (token, rest) => ⟨[token], mode, rest⟩
  else if c = '-' ∧ (cs.head?.map isDigit).getD false then
    (scanNumber size true (c :: cs) cs).map fun (token, rest) => ⟨[token], mode, rest⟩
  else if isNameStart c then
    let word := String.ofList (c :: cs.takeWhile isNamePart)
    let rest := cs.dropWhile isNamePart
    .ok ⟨[.between size (.ofWord word) word (c :: cs) rest], mode, rest⟩
  else .error ⟨.unexpectedCharacter c, c :: cs, cs⟩

/-- One step; `none` where the source ends. -/
def scanStep (size : Nat) (mode : ScanMode) (cs : List Char) :
    Except ScanFailure (Option ScanStep) :=
  match mode with
  | .text => if cs.isEmpty then .ok none else (scanTextStep size cs).map some
  | .placeholder opened maps =>
    match cs.dropWhile isWhitespace with
    | [] => .ok none
    | c :: cs => (scanPlaceholderStep size opened maps c cs).map some

/-! ## Every step reads something -/

theorem dropWhile_length_le (p : Char → Bool) (cs : List Char) :
    (cs.dropWhile p).length ≤ cs.length :=
  (List.dropWhile_suffix p).length_le

theorem scanText_rest_le {pending : Bool} {cs : List Char} {run : TextRun}
    (h : scanText pending cs = .ok run) : run.rest.length ≤ cs.length := by
  induction pending, cs using scanText.induct generalizing run with
  | case1 pending => simp [scanText] at h; simp [← h]
  | case2 pending c cs hp => simp [scanText, hp] at h; simp [← h]
  | case3 pending c cs hp hw ih =>
    rw [scanText, if_neg hp, if_pos hw] at h
    have := ih h
    simp
    omega
  | case4 pending cs failure hf hp hw =>
    rw [scanText_of_readEscape_error hf] at h
    cases h
  | case5 pending cs d rest hr hp hw ih =>
    rw [scanText_of_readEscape hr] at h
    cases hs : scanText false rest with
    | error e => simp [hs, Except.map] at h
    | ok run' =>
      simp [hs, Except.map] at h
      have := ih hs
      have := readEscape_rest_lt hr
      simp [← h, TextRun.cons] at *
      omega
  | case6 pending c cs hp hw hb ih =>
    rw [scanText, if_neg hp, if_neg hw, if_neg hb] at h
    cases hs : scanText false cs with
    | error e => simp [hs, Except.map] at h
    | ok run' =>
      simp [hs, Except.map] at h
      have := ih hs
      simp [← h, TextRun.cons]
      omega

theorem scanQuoted_closing {quote : Quote} {opening cs : List Char} {r : List Char × List Char}
    (h : scanQuoted quote opening cs = .ok r) :
    r.2.head? = some quote.char ∧ r.2.length ≤ cs.length := by
  induction cs using scanQuoted.induct quote generalizing r with
  | case1 => simp [scanQuoted] at h
  | case2 cs => simp [scanQuoted] at h; simp [← h]
  | case3 cs failure hf hq =>
    rw [scanQuoted_of_readEscape_error hf] at h
    cases h
  | case4 cs d rest hr hq ih =>
    rw [scanQuoted_of_readEscape hr] at h
    cases hs : scanQuoted quote opening rest with
    | error e => simp [hs, Except.map] at h
    | ok r' =>
      simp [hs, Except.map] at h
      have := ih hs
      have := readEscape_rest_lt hr
      simp [← h] at *
      exact ⟨by simp_all, by omega⟩
  | case5 c cs hq hb ih =>
    rw [scanQuoted, if_neg hq, if_neg hb] at h
    cases hs : scanQuoted quote opening cs with
    | error e => simp [hs, Except.map] at h
    | ok r' =>
      simp [hs, Except.map] at h
      have := ih hs
      simp [← h]
      exact ⟨by simp_all, by omega⟩

theorem scanText_rest_lt {pending : Bool} {c : Char} {cs : List Char} {run : TextRun}
    (hc : ¬(c = '%' ∧ cs.head? = some '{')) (h : scanText pending (c :: cs) = .ok run) :
    run.rest.length < (c :: cs).length := by
  rw [scanText, if_neg hc] at h
  split at h
  · have := scanText_rest_le h
    simp
    omega
  · split at h
    · split at h
      · simp at h
      · rename_i d rest hr
        cases hs : scanText false rest with
        | error e => simp [hs, Except.map] at h
        | ok run' =>
          simp [hs, Except.map] at h
          have := scanText_rest_le hs
          have := readEscape_rest_lt hr
          simp [← h, TextRun.cons] at *
          omega
    · cases hs : scanText false cs with
      | error e => simp [hs, Except.map] at h
      | ok run' =>
        simp [hs, Except.map] at h
        have := scanText_rest_le hs
        simp only [← h, TextRun.cons, List.length_cons]
        omega

theorem scanTextStep_rest_lt {size : Nat} {cs : List Char} {step : ScanStep} (hcs : cs ≠ [])
    (h : scanTextStep size cs = .ok step) : step.rest.length < cs.length := by
  unfold scanTextStep at h
  split at h
  · simp at h
    simp only [← h, List.length_cons]
    omega
  · rename_i hno
    cases cs with
    | nil => exact absurd rfl hcs
    | cons c cs =>
      cases hs : scanText false ((c :: cs).dropWhile isWhitespace) with
      | error e => simp [hs, Except.map] at h
      | ok run =>
        simp [hs, Except.map] at h
        simp only [← h]
        by_cases hw : isWhitespace c = true
        · have := scanText_rest_le hs
          have := dropWhile_length_le isWhitespace cs
          simp [hw] at *
          omega
        · rw [List.dropWhile_cons_of_neg hw] at hs
          refine scanText_rest_lt (fun hp => ?_) hs
          cases cs with
          | nil => simp at hp
          | cons d ds => simp at hp; exact hno ds (by simp [hp])

theorem scanQuotedTokens_rest_le {size : Nat} {quote : Quote} {opening content rest : List Char}
    {tokens : List Token} (h : scanQuotedTokens size quote opening content = .ok (tokens, rest)) :
    rest.length ≤ content.length := by
  unfold scanQuotedTokens at h
  cases hs : scanQuoted quote opening content with
  | error e =>
    rw [hs] at h
    cases h
  | ok r =>
    rw [hs] at h
    obtain ⟨-, rfl⟩ := Prod.mk.inj (Except.ok.inj h)
    have hle := (scanQuoted_closing hs).2
    rw [List.length_tail]
    omega

theorem scanNumber_eq_ok {size : Nat} {negative : Bool} {cs digits rest : List Char}
    {token : Token} (h : scanNumber size negative cs digits = .ok (token, rest)) :
    rest = digits.dropWhile isDigit ∧
      ∃ n, token = .between size (.number n)
        (String.ofList (if negative then '-' :: digits.takeWhile isDigit
          else digits.takeWhile isDigit)) cs rest := by
  unfold scanNumber at h
  simp only at h
  split at h
  · rename_i n _
    obtain ⟨rfl, rfl⟩ := Prod.mk.inj (Except.ok.inj h)
    exact ⟨rfl, n, rfl⟩
  · cases h

/-- What a step inside a placeholder reads, with one case for each thing that may stand there. -/
inductive PlaceholderStep (size opened maps : Nat) (c : Char) (cs : List Char) : ScanStep → Prop
  /-- A character of punctuation. -/
  | punctuation {kind : TokenKind} {mode : ScanMode}
      (hk : punctuationAt? c opened maps = some (kind, mode)) :
      PlaceholderStep size opened maps c cs
        ⟨[.between size kind (String.ofList [c]) (c :: cs) cs], mode, cs⟩
  /-- Quoted text. -/
  | quoted {quote : Quote} {tokens : List Token} {rest : List Char}
      (hs : scanQuotedTokens size quote (c :: cs) cs = .ok (tokens, rest))
      (hq : quoteAt? c = some quote) :
      PlaceholderStep size opened maps c cs ⟨tokens, .placeholder opened maps, rest⟩
  /-- A comparator of one character or two. -/
  | comparator (relation : Comparator) (two : Bool) :
      PlaceholderStep size opened maps c cs
        ⟨[.between size (.comparator relation)
          (String.ofList (if two then c :: cs.take 1 else [c])) (c :: cs)
          (if two then cs.tail else cs)], .placeholder opened maps, if two then cs.tail else cs⟩
  /-- Digits. -/
  | number {token : Token} {rest : List Char} (hd : isDigit c = true)
      (hs : scanNumber size false (c :: cs) (c :: cs) = .ok (token, rest)) :
      PlaceholderStep size opened maps c cs ⟨[token], .placeholder opened maps, rest⟩
  /-- Digits behind a sign. -/
  | negative {token : Token} {rest : List Char} (hc : c = '-')
      (hs : scanNumber size true (c :: cs) cs = .ok (token, rest)) :
      PlaceholderStep size opened maps c cs ⟨[token], .placeholder opened maps, rest⟩
  /-- A word. -/
  | word (hc : isNameStart c = true) :
      PlaceholderStep size opened maps c cs
        ⟨[.between size (.ofWord (String.ofList (c :: cs.takeWhile isNamePart)))
          (String.ofList (c :: cs.takeWhile isNamePart)) (c :: cs) (cs.dropWhile isNamePart)],
          .placeholder opened maps, cs.dropWhile isNamePart⟩

theorem placeholderStep_of_scan {size opened maps : Nat} {c : Char} {cs : List Char}
    {step : ScanStep} (h : scanPlaceholderStep size opened maps c cs = .ok step) :
    PlaceholderStep size opened maps c cs step := by
  unfold scanPlaceholderStep at h
  simp only at h
  split at h
  · rename_i kind mode hk
    obtain rfl := Except.ok.inj h
    exact .punctuation hk
  split at h
  · rename_i quote hq
    cases hs : scanQuotedTokens size quote (c :: cs) cs with
    | error e =>
      rw [hs] at h
      cases h
    | ok r =>
      rw [hs] at h
      obtain rfl := Except.ok.inj h
      exact .quoted hs hq
  split at h
  · rename_i relation two _
    obtain rfl := Except.ok.inj h
    exact .comparator relation two
  split at h
  · rename_i hd
    cases hs : scanNumber size false (c :: cs) (c :: cs) with
    | error e =>
      rw [hs] at h
      cases h
    | ok r =>
      rw [hs] at h
      obtain rfl := Except.ok.inj h
      exact .number hd hs
  split at h
  · rename_i hc
    cases hs : scanNumber size true (c :: cs) cs with
    | error e =>
      rw [hs] at h
      cases h
    | ok r =>
      rw [hs] at h
      obtain rfl := Except.ok.inj h
      exact .negative hc.1 hs
  split at h
  · rename_i hc
    obtain rfl := Except.ok.inj h
    exact .word hc
  · cases h

theorem PlaceholderStep.rest_lt {size opened maps : Nat} {c : Char} {cs : List Char}
    {step : ScanStep} (h : PlaceholderStep size opened maps c cs step) :
    step.rest.length < (c :: cs).length := by
  cases h with
  | punctuation hk => simp
  | quoted hs => exact Nat.lt_succ_of_le (scanQuotedTokens_rest_le hs)
  | comparator relation two =>
    dsimp only
    split <;> simp only [List.length_tail, List.length_cons] <;> omega
  | number hd hs =>
    obtain ⟨rfl, -⟩ := scanNumber_eq_ok hs
    rw [List.dropWhile_cons_of_pos hd]
    exact Nat.lt_succ_of_le (dropWhile_length_le isDigit cs)
  | negative hc hs =>
    obtain ⟨rfl, -⟩ := scanNumber_eq_ok hs
    exact Nat.lt_succ_of_le (dropWhile_length_le isDigit cs)
  | word hc => exact Nat.lt_succ_of_le (dropWhile_length_le isNamePart cs)

/-- A step reads literal text or the opening of a placeholder, or it reads something inside one,
    behind the whitespace there. -/
theorem scanStep_cases {size : Nat} {mode : ScanMode} {cs : List Char} {step : ScanStep}
    (h : scanStep size mode cs = .ok (some step)) :
    (mode = .text ∧ cs ≠ [] ∧ scanTextStep size cs = .ok step) ∨
      ∃ opened maps c ds, mode = .placeholder opened maps ∧
        cs.dropWhile isWhitespace = c :: ds ∧ PlaceholderStep size opened maps c ds step := by
  unfold scanStep at h
  split at h
  · split at h
    · cases h
    · rename_i hcs
      cases hs : scanTextStep size cs with
      | error e =>
        rw [hs] at h
        cases h
      | ok step' =>
        rw [hs] at h
        obtain rfl := Option.some.inj (Except.ok.inj h)
        exact .inl ⟨rfl, by simpa using hcs, rfl⟩
  · rename_i opened maps
    split at h
    · cases h
    · rename_i c ds hd
      cases hs : scanPlaceholderStep size opened maps c ds with
      | error e =>
        rw [hs] at h
        cases h
      | ok step' =>
        rw [hs] at h
        obtain rfl := Option.some.inj (Except.ok.inj h)
        exact .inr ⟨opened, maps, c, ds, rfl, hd, placeholderStep_of_scan hs⟩

/-- Every step reads at least one character. -/
theorem scanStep_rest_lt {size : Nat} {mode : ScanMode} {cs : List Char} {step : ScanStep}
    (h : scanStep size mode cs = .ok (some step)) : step.rest.length < cs.length := by
  rcases scanStep_cases h with ⟨-, hcs, hs⟩ | ⟨opened, maps, c, ds, -, hd, hs⟩
  · exact scanTextStep_rest_lt hcs hs
  · have hlt := hs.rest_lt
    have hle := dropWhile_length_le isWhitespace cs
    rw [hd] at hle
    omega

/-! ## The whole source -/

/-- The tokens of what is left of a source of `size` characters, the end of the source last. -/
def scanTokens (size : Nat) (mode : ScanMode) (cs : List Char) :
    Except SyntaxError (List Token) :=
  match _h : scanStep size mode cs with
  | .error failure => .error (failure.toError size)
  | .ok none =>
    match mode with
    | .text => .ok [⟨.eof, size, size, ""⟩]
    | .placeholder opened _ => .error ⟨.unclosedPlaceholder, Span.between opened size⟩
  | .ok (some step) => (scanTokens size step.mode step.rest).map (step.tokens ++ ·)
termination_by cs.length
decreasing_by exact scanStep_rest_lt _h

theorem scanTokens_eq_map {size : Nat} {mode : ScanMode} {cs : List Char} {step : ScanStep}
    (h : scanStep size mode cs = .ok (some step)) :
    scanTokens size mode cs = (scanTokens size step.mode step.rest).map (step.tokens ++ ·) := by
  rw [scanTokens.eq_def]
  split
  · simp_all
  · simp_all
  · rename_i step' hs
    obtain rfl := Option.some.inj (Except.ok.inj (h.symm.trans hs))
    rfl

theorem scanTokens_of_end {size : Nat} {cs : List Char} (h : scanStep size .text cs = .ok none) :
    scanTokens size .text cs = .ok [⟨.eof, size, size, ""⟩] := by
  rw [scanTokens.eq_def]
  split <;> simp_all

/-- What holds at the end of a source, and in front of a step if it holds behind it, holds of whatever
    is scanned. -/
theorem scanTokens_induction {size : Nat} {motive : ScanMode → List Char → List Token → Prop}
    (ending : ∀ cs, scanStep size .text cs = .ok none → motive .text cs [⟨.eof, size, size, ""⟩])
    (step : ∀ mode cs step tokens, scanStep size mode cs = .ok (some step) →
      motive step.mode step.rest tokens → motive mode cs (step.tokens ++ tokens))
    {mode : ScanMode} {cs : List Char} {tokens : List Token}
    (h : scanTokens size mode cs = .ok tokens) : motive mode cs tokens := by
  induction mode, cs using scanTokens.induct size generalizing tokens with
  | case1 mode cs failure hs =>
    rw [scanTokens] at h
    split at h <;> simp_all
  | case2 cs hs =>
    rw [scanTokens_of_end hs] at h
    obtain rfl := Except.ok.inj h
    exact ending cs hs
  | case3 cs opened maps hs =>
    rw [scanTokens] at h
    split at h <;> simp_all
  | case4 mode cs step' hs ih =>
    rw [scanTokens_eq_map hs] at h
    cases ht : scanTokens size step'.mode step'.rest with
    | error e =>
      rw [ht] at h
      cases h
    | ok rest =>
      rw [ht] at h
      obtain rfl := Except.ok.inj h
      exact step mode cs step' rest hs (ih ht)

/-- The tokens of a template; the last one is the end of the source. -/
def tokenize (source : String) : Except SyntaxError (List Token) :=
  scanTokens source.length .text source.toList

end Phrasebook
