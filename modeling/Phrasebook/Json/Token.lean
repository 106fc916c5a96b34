import Phrasebook.Json.Basic
import Phrasebook.Text.Escape

/-!
# Tokens of JSON documents

`jsonTokens?` cuts a document into tokens and refuses whatever the grammar of JSON refuses in
strings, numbers and words.
-/

namespace Phrasebook

/-! ## Strings -/

/-- A piece of a string: a character, or the number of an escape. -/
inductive JsonPiece where
  /-- A character. -/
  | char (c : Char)
  /-- The number that follows a backslash and `u`. -/
  | unit (code : Nat)

/-- The character that a short escape stands for. -/
def shortEscape? : Char → Option Char
  | '"' => some '"'
  | '\\' => some '\\'
  | '/' => some '/'
  | 'b' => some '\x08'
  | 'f' => some '\x0c'
  | 'n' => some '\n'
  | 'r' => some '\r'
  | 't' => some '\t'
  | _ => none

/-- Reads a string behind its opening quotation mark: its pieces and the rest. -/
def scanJsonString : List Char → Option (List JsonPiece × List Char)
  | [] => none
  | '"' :: cs => some ([], cs)
  | '\\' :: 'u' :: w :: x :: y :: z :: cs =>
    match readHex 4 0 [w, x, y, z] with
    | .ok (code, _) => (scanJsonString cs).map fun (pieces, rest) => (.unit code :: pieces, rest)
    | .error _ => none
  | '\\' :: c :: cs =>
    match shortEscape? c with
    | some d => (scanJsonString cs).map fun (pieces, rest) => (.char d :: pieces, rest)
    | none => none
  | c :: cs =>
    if c.toNat < 0x20 ∨ c = '\\' then none
    else (scanJsonString cs).map fun (pieces, rest) => (.char c :: pieces, rest)

/-- Tells whether a number is the first half of a surrogate pair. -/
def isHighSurrogate (code : Nat) : Bool := 0xD800 ≤ code && code < 0xDC00

/-- Tells whether a number is the second half of a surrogate pair. -/
def isLowSurrogate (code : Nat) : Bool := 0xDC00 ≤ code && code < 0xE000

/-- The characters of the pieces, where each surrogate needs its partner. -/
def joinPieces : List JsonPiece → Option (List Char)
  | [] => some []
  | .char c :: pieces => (joinPieces pieces).map (c :: ·)
  | .unit high :: .unit low :: pieces =>
    if isHighSurrogate high && isLowSurrogate low then
      (joinPieces pieces).map
        (Char.ofNat (0x10000 + (high - 0xD800) * 0x400 + (low - 0xDC00)) :: ·)
    else (charOfCode? high).bind fun c => (joinPieces (.unit low :: pieces)).map (c :: ·)
  | .unit code :: pieces => (charOfCode? code).bind fun c => (joinPieces pieces).map (c :: ·)

/-! ## Numbers -/

/-- Drops one or more digits. -/
def dropDigits? (cs : List Char) : Option (List Char) :=
  if (cs.head?.map isDigit).getD false then some (cs.dropWhile isDigit) else none

/-- Drops a fraction if there is one. -/
def dropFraction? : List Char → Option (List Char)
  | '.' :: cs => dropDigits? cs
  | cs => some cs

/-- Drops an exponent if there is one. -/
def dropExponent? : List Char → Option (List Char)
  | c :: cs =>
    if c = 'e' ∨ c = 'E' then
      match cs with
      | '+' :: cs => dropDigits? cs
      | '-' :: cs => dropDigits? cs
      | cs => dropDigits? cs
    else some (c :: cs)
  | [] => some []

/-- Drops the digits in front of the point, which do not begin with a needless zero. -/
def dropWhole? : List Char → Option (List Char)
  | '0' :: cs => if (cs.head?.map isDigit).getD false then none else some cs
  | cs => dropDigits? cs

/-- Tells whether the characters spell a number. -/
def isJsonNumber (cs : List Char) : Bool :=
  let unsigned := if cs.head? = some '-' then cs.drop 1 else cs
  ((dropWhole? unsigned).bind dropFraction?).bind dropExponent? == some []

/-- The characters of numbers. -/
def isNumberChar (c : Char) : Bool :=
  isDigit c || c == '-' || c == '+' || c == '.' || c == 'e' || c == 'E'

/-! ## Tokens -/

/-- A token of a document. -/
inductive JsonToken where
  /-- An opening bracket. -/
  | arrayStart
  /-- A closing bracket. -/
  | arrayEnd
  /-- An opening brace. -/
  | objectStart
  /-- A closing brace. -/
  | objectEnd
  /-- A comma. -/
  | comma
  /-- A colon. -/
  | colon
  /-- A value without parts. -/
  | scalar (value : JsonValue)

/-- The token that a word is. -/
def jsonWord? (word : List Char) : Option JsonToken :=
  if word = ['n', 'u', 'l', 'l'] then some (.scalar .null)
  else if word = ['t', 'r', 'u', 'e'] then some (.scalar (.bool true))
  else if word = ['f', 'a', 'l', 's', 'e'] then some (.scalar (.bool false))
  else none

/-- The token that a character is. -/
def jsonMark? : Char → Option JsonToken
  | '[' => some .arrayStart
  | ']' => some .arrayEnd
  | '{' => some .objectStart
  | '}' => some .objectEnd
  | ',' => some .comma
  | ':' => some .colon
  | _ => none

/-- Space between tokens. -/
def isJsonSpace (c : Char) : Bool := c == ' ' || c == '\n' || c == '\t' || c == '\r'

theorem scanJsonString_rest_lt {cs : List Char} {r : List JsonPiece × List Char}
    (h : scanJsonString cs = some r) : r.2.length < cs.length := by
  fun_induction scanJsonString cs generalizing r with
  | case1 => simp at h
  | case2 cs => simp at h; subst h; simp
  | case3 w x y z cs code rest hx ih =>
    simp only [Option.map_eq_some_iff] at h
    obtain ⟨a, ha, rfl⟩ := h
    have := ih ha
    simp
    omega
  | case4 => simp at h
  | case5 c cs _ d hd ih =>
    simp only [Option.map_eq_some_iff] at h
    obtain ⟨a, ha, rfl⟩ := h
    have := ih ha
    simp
    omega
  | case6 => simp at h
  | case7 => simp at h
  | case8 c cs _ _ _ _ ih =>
    simp only [Option.map_eq_some_iff] at h
    obtain ⟨a, ha, rfl⟩ := h
    have := ih ha
    simp
    omega

/-- The tokens of a document. -/
def jsonTokens? (cs : List Char) : Option (List JsonToken) :=
  match cs with
  | [] => some []
  | c :: cs =>
    if isJsonSpace c then jsonTokens? cs
    else if c = '"' then
      match _h : scanJsonString cs with
      | some (pieces, rest) =>
        (jsonTokens? rest).map
          (.scalar (.string ((joinPieces pieces).map String.ofList)) :: ·)
      | none => none
    else if c.isAlpha then do
      let token ← jsonWord? (c :: cs.takeWhile Char.isAlpha)
      let tokens ← jsonTokens? (cs.dropWhile Char.isAlpha)
      some (token :: tokens)
    else if isNumberChar c then
      let spelling := c :: cs.takeWhile isNumberChar
      if isJsonNumber spelling then
        (jsonTokens? (cs.dropWhile isNumberChar)).map (.scalar (.number spelling) :: ·)
      else none
    else do
      let token ← jsonMark? c
      let tokens ← jsonTokens? cs
      some (token :: tokens)
termination_by cs.length
decreasing_by
  · simp
  · have := scanJsonString_rest_lt _h
    simp at this ⊢
    omega
  · have := (List.dropWhile_suffix (l := cs) Char.isAlpha).length_le
    simp
    omega
  · have := (List.dropWhile_suffix (l := cs) isNumberChar).length_le
    simp
    omega
  · simp

end Phrasebook
