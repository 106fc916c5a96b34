import Phrasebook.Proofs.Template.Scanning
import Phrasebook.Template.Reading

/-! # The grammar of templates

    A derivation of a template is a tree whose leaves are tokens. Every node carries the proof that
    its tokens are of the kinds that its rule asks for, so there are no other trees than
    derivations:

    * template: texts and placeholders, then the end of the source;
    * placeholder: opening, name, details, closing brace;
    * details: nothing, or a comma and a format, settings, or a format, a comma and settings;
    * settings: entries, with or without braces around them;
    * entries: entries with commas between them, and maybe a comma behind the last one;
    * entry: a colon and a value, a quoted text, or a key, a colon and a value;
    * key: a comparator or none and a number or quoted text; `=`, `<>` or none and `null` or
      `empty`; a truth value; a name;
    * value: quoted text, a number, a truth value or a word.

    `tokens` is what a tree derives. What it stands for is a value, a key, settings or a message.
    Keys may repeat in a tree; `Distinct` says that they do not. -/

namespace Phrasebook

/-! ### Leaves -/

/-- A token of a kind without a value. -/
structure Leaf (kind : TokenKind) where
  /-- The token. -/
  token : Token
  /-- It is of the kind. -/
  kind_eq : token.kind = kind

/-- Text between quotes. -/
structure QuotedTree where
  /-- The quote in front. -/
  opening : Token
  /-- The text. -/
  content : Token
  /-- The quote behind. -/
  closing : Token
  /-- The source form of the text. -/
  source : String
  /-- The first token is a quote. -/
  opening_kind : ∃ quote, opening.kind = .quoteStart quote
  /-- The second token has the source form. -/
  content_kind : content.kind = .quotedText source
  /-- The last token is a closing quote. -/
  closing_kind : ∃ quote, closing.kind = .quoteEnd quote

namespace QuotedTree

/-- The tokens of the text and its quotes. -/
def tokens (tree : QuotedTree) : List Token := [tree.opening, tree.content, tree.closing]

/-- The string that the text stands for. -/
def value (tree : QuotedTree) : QuotedText := ⟨tree.source, tree.content.text⟩

end QuotedTree

/-! ### Values and keys -/

/-- A value. -/
inductive ValueTree where
  /-- Quoted text. -/
  | quoted (text : QuotedTree)
  /-- An integer. -/
  | number (token : Token) (n : Int64) (kind : token.kind = .number n)
  /-- A truth value. -/
  | bool (token : Token) (b : Bool) (kind : token.kind = .bool b)
  /-- A word. -/
  | word (token : Token) (kind : token.kind.IsWord)

namespace ValueTree

/-- The tokens of the value. -/
def tokens : ValueTree → List Token
  | quoted text => text.tokens
  | number token _ _ => [token]
  | bool token _ _ => [token]
  | word token _ => [token]

/-- The value itself. -/
def value : ValueTree → SettingValue
  | quoted text => .string text.value
  | number _ n _ => .number n
  | bool _ b _ => .bool b
  | word token _ => .string (.ofWord token.text)

end ValueTree

/-- A comparator. -/
structure ComparatorTree where
  /-- The token. -/
  token : Token
  /-- The comparator that it is. -/
  relation : Comparator
  /-- It is the comparator. -/
  kind_eq : token.kind = .comparator relation

/-- The relation of a key; without a comparator it is equality. -/
def ComparatorTree.relationOf (mark : Option ComparatorTree) : Comparator :=
  (mark.map ComparatorTree.relation).getD .eq

/-- The token of a comparator, if there is one. -/
def ComparatorTree.tokensOf (mark : Option ComparatorTree) : List Token :=
  (mark.map ComparatorTree.token).toList

/-- Keywords can be compared by equality and its contrary only. -/
def ComparatorTree.ForKeyword (mark : Option ComparatorTree) : Prop :=
  relationOf mark = .eq ∨ relationOf mark = .ne

/-- A key. -/
inductive KeyTree where
  /-- An integer. -/
  | number (mark : Option ComparatorTree) (token : Token) (n : Int64)
      (kind : token.kind = .number n)
  /-- Quoted text. -/
  | quoted (mark : Option ComparatorTree) (text : QuotedTree)
  /-- The keyword `null`. -/
  | null (mark : Option ComparatorTree) (fine : ComparatorTree.ForKeyword mark) (leaf : Leaf .null)
  /-- The keyword `empty`. -/
  | empty (mark : Option ComparatorTree) (fine : ComparatorTree.ForKeyword mark)
      (leaf : Leaf .empty)
  /-- A truth value. -/
  | bool (token : Token) (b : Bool) (kind : token.kind = .bool b)
  /-- A name. -/
  | name (leaf : Leaf .name)

namespace KeyTree

/-- The tokens of the key. -/
def tokens : KeyTree → List Token
  | number mark token _ _ => ComparatorTree.tokensOf mark ++ [token]
  | quoted mark text => ComparatorTree.tokensOf mark ++ text.tokens
  | null mark _ leaf => ComparatorTree.tokensOf mark ++ [leaf.token]
  | empty mark _ leaf => ComparatorTree.tokensOf mark ++ [leaf.token]
  | bool token _ _ => [token]
  | name leaf => [leaf.token]

/-- The key itself. -/
def key : KeyTree → SettingKey
  | number mark _ n _ => .number (ComparatorTree.relationOf mark) n
  | quoted mark text => .string (ComparatorTree.relationOf mark) text.content.text
  | null mark _ _ => .null (ComparatorTree.relationOf mark)
  | empty mark _ _ => .empty (ComparatorTree.relationOf mark)
  | bool _ b _ => .bool b
  | name leaf => .name leaf.token.text

end KeyTree

/-! ### Settings -/

/-- An entry. -/
inductive EntryTree where
  /-- A value for everything else. -/
  | otherwise (colon : Leaf .colon) (value : ValueTree)
  /-- Quoted text for everything else. -/
  | bare (text : QuotedTree)
  /-- A key and its value. -/
  | keyed (key : KeyTree) (colon : Leaf .colon) (value : ValueTree)

namespace EntryTree

/-- The tokens of the entry. -/
def tokens : EntryTree → List Token
  | otherwise colon value => colon.token :: value.tokens
  | bare text => text.tokens
  | keyed key colon value => key.tokens ++ colon.token :: value.tokens

/-- The key and the value of an entry that has a key. -/
def keyed? : EntryTree → Option (SettingKey × SettingValue)
  | keyed key _ value => some (key.key, value.value)
  | _ => none

/-- The value for everything else. -/
def otherwise? : EntryTree → Option SettingValue
  | otherwise _ value => some value.value
  | bare text => some (.string text.value)
  | keyed _ _ _ => none

end EntryTree

/-- Entries with commas between them. -/
inductive EntriesTree where
  /-- The last entry. -/
  | last (entry : EntryTree)
  /-- The last entry, with a comma behind it. -/
  | closed (entry : EntryTree) (comma : Leaf .comma)
  /-- An entry with more behind it. -/
  | more (entry : EntryTree) (comma : Leaf .comma) (rest : EntriesTree)

namespace EntriesTree

/-- The tokens of the entries. -/
def tokens : EntriesTree → List Token
  | last entry => entry.tokens
  | closed entry comma => entry.tokens ++ [comma.token]
  | more entry comma rest => entry.tokens ++ comma.token :: rest.tokens

/-- The entries in order. -/
def entries : EntriesTree → List EntryTree
  | last entry => [entry]
  | closed entry _ => [entry]
  | more entry _ rest => entry :: rest.entries

end EntriesTree

/-- Settings, with or without braces. -/
inductive SettingsTree where
  /-- Entries in braces. -/
  | braced (opening : Leaf .mapStart) (entries : EntriesTree) (closing : Leaf .mapEnd)
  /-- Entries without braces. -/
  | plain (entries : EntriesTree)

namespace SettingsTree

/-- The tokens of the settings. -/
def tokens : SettingsTree → List Token
  | braced opening entries closing => opening.token :: (entries.tokens ++ [closing.token])
  | plain entries => entries.tokens

/-- The entries in order. -/
def entries : SettingsTree → List EntryTree
  | braced _ entries _ => entries.entries
  | plain entries => entries.entries

/-- The settings: the entries with keys in order, and the value for everything else. -/
def settings (tree : SettingsTree) : Settings SettingValue :=
  ⟨tree.entries.filterMap EntryTree.keyed?, (tree.entries.filterMap EntryTree.otherwise?).head?⟩

/-- No key repeats, and there is at most one value for everything else. -/
structure Distinct (tree : SettingsTree) : Prop where
  /-- No key repeats. -/
  keys : ((tree.entries.filterMap EntryTree.keyed?).map Prod.fst).Nodup
  /-- At most one value is for everything else. -/
  otherwise : (tree.entries.filterMap EntryTree.otherwise?).length ≤ 1

end SettingsTree

/-! ### Placeholders -/

/-- What stands behind the name of a placeholder. -/
inductive DetailsTree where
  /-- Nothing. -/
  | none
  /-- A format. -/
  | format (comma : Leaf .comma) (word : Leaf .name)
  /-- Settings. -/
  | settings (comma : Leaf .comma) (tree : SettingsTree)
  /-- A format and settings. -/
  | both (comma : Leaf .comma) (word : Leaf .name) (comma' : Leaf .comma) (tree : SettingsTree)

namespace DetailsTree

/-- The tokens of the details. -/
def tokens : DetailsTree → List Token
  | none => []
  | format comma word => [comma.token, word.token]
  | settings comma tree => comma.token :: tree.tokens
  | both comma word comma' tree => comma.token :: word.token :: comma'.token :: tree.tokens

/-- The settings among the details. -/
def settings? : DetailsTree → Option SettingsTree
  | none | format _ _ => .none
  | settings _ tree | both _ _ _ tree => some tree

/-- The name of the format. -/
def format? : DetailsTree → Option String
  | none | settings _ _ => .none
  | format _ word | both _ word _ _ => some word.token.text

/-- The name of the format and the settings. -/
def details (tree : DetailsTree) : Option String × Settings SettingValue :=
  (tree.format?, (tree.settings?.map SettingsTree.settings).getD {})

end DetailsTree

/-- A placeholder. -/
structure PlaceTree where
  /-- The opening. -/
  opening : Leaf .placeholderStart
  /-- The name. -/
  name : Token
  /-- What stands behind the name. -/
  details : DetailsTree
  /-- The closing brace. -/
  closing : Leaf .placeholderEnd
  /-- Names and keywords are names. -/
  name_kind : name.kind.IsWord ∨ ∃ b, name.kind = .bool b

namespace PlaceTree

/-- The tokens of the placeholder. -/
def tokens (tree : PlaceTree) : List Token :=
  tree.opening.token :: tree.name :: (tree.details.tokens ++ [tree.closing.token])

/-- The placeholder itself. -/
def place (tree : PlaceTree) : Placeholder :=
  ⟨tree.name.text, tree.details.details.1, tree.details.details.2, false, false⟩

/-- No key repeats in the settings. -/
def Distinct (tree : PlaceTree) : Prop := ∀ settings ∈ tree.details.settings?, settings.Distinct

end PlaceTree

/-! ### Templates -/

/-- A text or a placeholder. -/
inductive ItemTree where
  /-- Literal text. -/
  | text (token : Token) (before after : Bool) (kind : token.kind = .text before after)
  /-- A placeholder. -/
  | place (tree : PlaceTree)

namespace ItemTree

/-- The tokens of the item. -/
def tokens : ItemTree → List Token
  | text token _ _ _ => [token]
  | place tree => tree.tokens

/-- The part that the item stands for. -/
def part : ItemTree → Part
  | text token before after _ => .literal ⟨token.text, before, after⟩
  | place tree => .placeholder tree.place

/-- No key repeats in the settings. -/
def Distinct : ItemTree → Prop
  | text _ _ _ _ => True
  | place tree => tree.Distinct

end ItemTree

/-- A derivation of a template. -/
structure TemplateTree where
  /-- Texts and placeholders. -/
  items : List ItemTree
  /-- The end of the source. -/
  ending : Leaf .eof

namespace TemplateTree

/-- The tokens of the template. -/
def tokens (tree : TemplateTree) : List Token :=
  tree.items.flatMap ItemTree.tokens ++ [tree.ending.token]

/-- The message that the template stands for; empty literals are folded. -/
def message (tree : TemplateTree) : Message := .ofParts (tree.items.map ItemTree.part)

/-- Keys are distinct in the settings of every placeholder. -/
def Distinct (tree : TemplateTree) : Prop := ∀ item ∈ tree.items, item.Distinct

end TemplateTree

end Phrasebook
