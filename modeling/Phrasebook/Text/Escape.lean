/-!
# Escape sequences and quotes

Inside templates a backslash makes the next character literal, and `\uXXXX` stands for a character
given by four hexadecimal digits. Two functions write escapes: `escape` for text inside quotes and
`escapeLiteral` for text outside of placeholders. Two functions resolve them: `readEscape` reads
one sequence and refuses malformed ones, `unescape` resolves a whole text and keeps what is
malformed.
-/

namespace Phrasebook

/-! ## Writing escapes -/

/-- Characters with a meaning inside quoted template text. -/
def needsEscape (c : Char) : Bool :=
  c == '\\' || c == '\'' || c == '"' || c == '%'

/-- Puts a backslash in front of every character with a meaning inside quoted text. -/
def escapeChars : List Char → List Char
  | [] => []
  | c :: cs => if needsEscape c then '\\' :: c :: escapeChars cs else c :: escapeChars cs

/-- The text as it is written inside quotes. -/
def escape (s : String) : String :=
  String.ofList (escapeChars s.toList)

/-- Puts a backslash in front of backslashes and of percent signs that would open a placeholder. -/
def escapeLiteralChars : List Char → List Char
  | [] => []
  | c :: cs =>
    if c = '\\' ∨ c = '%' ∧ cs.head? = some '{' then '\\' :: c :: escapeLiteralChars cs
    else c :: escapeLiteralChars cs

/-- The text as it is written outside of placeholders. -/
def escapeLiteral (s : String) : String :=
  String.ofList (escapeLiteralChars s.toList)

/-! ## Resolving escapes -/

/-- Value of a hexadecimal digit. -/
def hexValue? (c : Char) : Option Nat :=
  if '0' ≤ c ∧ c ≤ '9' then some (c.toNat - 48)
  else if 'a' ≤ c ∧ c ≤ 'f' then some (c.toNat - 87)
  else if 'A' ≤ c ∧ c ≤ 'F' then some (c.toNat - 55)
  else none

/-- The character with a code, unless the code is a surrogate or too large. -/
def charOfCode? (code : Nat) : Option Char :=
  if code.isValidChar then some (Char.ofNat code) else none

/-- Why an escape sequence is refused. -/
inductive EscapeFault where
  /-- Nothing follows the backslash. -/
  | incomplete
  /-- `u` is not followed by four hexadecimal digits of a character. -/
  | invalidUnicode
deriving DecidableEq, Repr

/-- A refused escape sequence: the fault and what is left of the source where reading stopped. -/
structure EscapeFailure where
  /-- What is wrong. -/
  fault : EscapeFault
  /-- The characters not read. -/
  rest : List Char
deriving DecidableEq, Repr

/-- Reads `count` hexadecimal digits behind a number already read. -/
def readHex : (count number : Nat) → List Char → Except EscapeFailure (Nat × List Char)
  | 0, number, cs => .ok (number, cs)
  | _ + 1, _, [] => .error ⟨.invalidUnicode, []⟩
  | count + 1, number, c :: cs =>
    match hexValue? c with
    | some digit => readHex count (number * 16 + digit) cs
    | none => .error ⟨.invalidUnicode, c :: cs⟩

/-- Reads what follows a backslash: the character that the sequence stands for and the rest. -/
def readEscape : List Char → Except EscapeFailure (Char × List Char)
  | [] => .error ⟨.incomplete, []⟩
  | c :: cs =>
    if c = 'u' then
      match readHex 4 0 cs with
      | .error failure => .error failure
      | .ok (code, rest) =>
        match charOfCode? code with
        | some d => .ok (d, rest)
        | none => .error ⟨.invalidUnicode, rest⟩
    else .ok (c, cs)

/-- Value of a number written in hexadecimal digits, which a plus sign may precede. -/
def hexNumber? : List Char → Option Nat
  | '+' :: c :: cs => (c :: cs).foldlM (fun number d => (number * 16 + ·) <$> hexValue? d) 0
  | [] => none
  | cs => cs.foldlM (fun number d => (number * 16 + ·) <$> hexValue? d) 0

/-- Resolves escape sequences. A backslash at the end stays; `u` without a number of four
    characters stands for itself. -/
def unescapeChars : List Char → List Char
  | [] => []
  | [c] => [c]
  | c :: d :: cs =>
    if c = '\\' then
      if d = 'u' then
        match cs with
        | w :: x :: y :: z :: rest =>
          match (hexNumber? [w, x, y, z]).bind charOfCode? with
          | some decoded => decoded :: unescapeChars rest
          | none => d :: unescapeChars (w :: x :: y :: z :: rest)
        | cs => d :: unescapeChars cs
      else d :: unescapeChars cs
    else c :: unescapeChars (d :: cs)

/-- The text that a source stands for. -/
def unescape (s : String) : String :=
  String.ofList (unescapeChars s.toList)

/-! ## Quotes -/

/-- Puts a backslash in front of every apostrophe that has none. The flag tells that the character
    before was a backslash that escapes. -/
def escapeApostrophes : (escaped : Bool) → List Char → List Char
  | _, [] => []
  | escaped, c :: cs =>
    if c = '\'' ∧ ¬ escaped then '\\' :: c :: escapeApostrophes false cs
    else c :: escapeApostrophes (c == '\\' && !escaped) cs

/-- Encloses template source in quotes that do not clash with its content: in apostrophes, else in
    quotation marks; where both occur the apostrophes are escaped. -/
def quoteSource (source : String) : String :=
  let cs := source.toList
  if '\'' ∉ cs then String.ofList ('\'' :: cs ++ ['\''])
  else if '"' ∉ cs then String.ofList ('"' :: cs ++ ['"'])
  else String.ofList ('\'' :: escapeApostrophes false cs ++ ['\''])

/-! ## What reading leaves -/

theorem readHex_rest_le {count number : Nat} {cs : List Char} {r : Nat × List Char}
    (h : readHex count number cs = .ok r) : r.2.length + count = cs.length := by
  induction count generalizing number cs with
  | zero => simp [readHex] at h; simp [← h]
  | succ count ih =>
    cases cs with
    | nil => simp [readHex] at h
    | cons c cs =>
      simp only [readHex] at h
      split at h
      · have := ih h
        simp
        omega
      · simp at h

/-- A sequence that is read is not empty. -/
theorem readEscape_rest_lt {cs : List Char} {r : Char × List Char}
    (h : readEscape cs = .ok r) : r.2.length < cs.length := by
  cases cs with
  | nil => simp [readEscape] at h
  | cons c cs =>
    simp only [readEscape] at h
    split at h
    · split at h
      · simp at h
      · rename_i hx
        have := readHex_rest_le hx
        split at h
        · simp at h
          subst h
          simp at this ⊢
          omega
        · simp at h
    · simp at h
      subst h
      simp

end Phrasebook
