import Phrasebook.Template.SyntaxError

/-!
# Tokens of templates

A token covers the characters from `start` up to `stop`. Its text is the covered source, except
that literal and quoted text have their escape sequences resolved.
-/

namespace Phrasebook

/-- The two quotes that may enclose text. -/
inductive Quote where
  /-- The apostrophe. -/
  | single
  /-- The quotation mark. -/
  | double
deriving DecidableEq, Repr, Inhabited

/-- The character of a quote. -/
def Quote.char : Quote → Char
  | .single => '\''
  | .double => '"'

/-- What a token is, with the value that it carries. -/
inductive TokenKind where
  /-- A run of literal text; whitespace around it is kept as flags. -/
  | text (spaceBefore spaceAfter : Bool)
  /-- The opening of a placeholder. -/
  | placeholderStart
  /-- The brace that closes a placeholder. -/
  | placeholderEnd
  /-- A comma. -/
  | comma
  /-- A colon. -/
  | colon
  /-- The brace that opens a map. -/
  | mapStart
  /-- The brace that closes a map. -/
  | mapEnd
  /-- A quote in front of quoted text. -/
  | quoteStart (quote : Quote)
  /-- The quote behind quoted text. -/
  | quoteEnd (quote : Quote)
  /-- Quoted text with its source form. -/
  | quotedText (source : String)
  /-- A word that is no keyword. -/
  | name
  /-- An integer. -/
  | number (value : Int64)
  /-- A truth value. -/
  | bool (value : Bool)
  /-- The keyword `null`. -/
  | null
  /-- The keyword `empty`. -/
  | empty
  /-- A comparator. -/
  | comparator (relation : Comparator)
  /-- The end of the source. -/
  | eof
deriving DecidableEq, Repr, Inhabited

/-- A token with its place in the source. -/
structure Token where
  /-- What it is. -/
  kind : TokenKind
  /-- Offset of its first character. -/
  start : Nat
  /-- Offset behind its last character. -/
  stop : Nat
  /-- What it stands for. -/
  text : String
deriving DecidableEq, Repr, Inhabited

namespace Token

/-- The characters that the token covers. -/
def span (token : Token) : Span := ⟨token.start, token.stop⟩

/-- The syntax error that blames the token. -/
def error (token : Token) (cause : SyntaxCause) : SyntaxError := ⟨cause, token.span⟩

end Token

end Phrasebook
