import Phrasebook.Text.Spacing

/-!
# Locales

A locale is a language with an optional region; the root locale has the empty language. The module
reads and writes locale tags, knows the decimal separator, and picks the variant of a localized
message: `selectVariant` is the order of preference exact, language, root, first.
-/

namespace Phrasebook

/-- A language with an optional region. -/
structure Locale where
  /-- Language code in lower case; empty for the root locale. -/
  language : String
  /-- Region code in upper case. -/
  region : Option String
deriving DecidableEq, Repr, Inhabited

/-- A refused locale tag. -/
structure LocaleError where
  /-- The tag without surrounding whitespace. -/
  tag : String
deriving DecidableEq, Repr

/-- The wording of the error. -/
def LocaleError.message (error : LocaleError) : String :=
  s!"invalid locale tag '{error.tag}'"

namespace Locale

/-- The locale without a language. -/
def root : Locale := ⟨"", none⟩

/-- The text with ASCII letters in lower case. -/
def lowerAscii (s : String) : String := String.ofList (s.toList.map Char.toLower)

/-- The text with ASCII letters in upper case. -/
def upperAscii (s : String) : String := String.ofList (s.toList.map Char.toUpper)

/-- The locale of a language and a region; an empty region is none. -/
def make (language : String) (region : Option String) : Locale :=
  ⟨lowerAscii language, (region.filter (· ≠ "")).map upperAscii⟩

/-- Tells whether the locale has no language. -/
def isRoot (l : Locale) : Bool := l.language.isEmpty

/-- The locale without its region. -/
def languageOnly (l : Locale) : Locale := { l with region := none }

/-- The tag of the locale: `language` or `language-REGION`. -/
def tag (l : Locale) : String :=
  match l.region with
  | some region => l.language ++ "-" ++ region
  | none => l.language

/-- The name of the locale in messages to people. -/
def displayName (l : Locale) : String :=
  if l.isRoot then "ROOT" else l.tag

/-! ## Reading tags -/

/-- Two or three ASCII letters. -/
def isLanguageCode (cs : List Char) : Bool :=
  (cs.length == 2 || cs.length == 3) && cs.all Char.isAlpha

/-- Two ASCII letters or three digits. -/
def isRegionCode (cs : List Char) : Bool :=
  (cs.length == 2 && cs.all Char.isAlpha) || (cs.length == 3 && cs.all Char.isDigit)

/-- The separators of language and region. -/
def isTagSeparator (c : Char) : Bool := c == '-' || c == '_'

/-- Language and region of a tag. The empty tag has the empty language. -/
def splitTag? (cs : List Char) : Option (List Char × Option (List Char)) :=
  if cs.isEmpty then some ([], none)
  else
    let language := cs.takeWhile fun c => !isTagSeparator c
    if !isLanguageCode language then none
    else
      match cs.drop language.length with
      | [] => some (language, none)
      | _ :: region => if isRegionCode region then some (language, some region) else none

/-- Reads `en`, `en-US` or `en_US`; the empty tag and `root` are the root locale. -/
def parse (tag : String) : Except LocaleError Locale :=
  let tag := trimBlank tag
  if eqIgnoringAsciiCase tag "root" then .ok root
  else
    match splitTag? tag.toList with
    | some (language, region) => .ok (make (String.ofList language) (region.map String.ofList))
    | none => .error ⟨tag⟩

/-! ## Decimal separators -/

/-- Languages that write a comma between whole and fraction. -/
def commaLanguages : List String :=
  ["bg", "cs", "da", "de", "el", "es", "fi", "fr", "hr", "hu", "id", "it", "nb", "nl", "no",
   "pl", "pt", "ro", "ru", "sk", "sl", "sr", "sv", "tr", "uk"]

/-- The character between whole and fraction. -/
def decimalSeparator (l : Locale) : Char :=
  if l.language ∈ commaLanguages then ',' else '.'

end Locale

/-! ## Choosing a variant -/

section Variants

variable {α : Type}

/-- The first variant whose locale satisfies a condition. -/
def findVariant (p : Locale → Bool) (variants : List (Locale × α)) : Option α :=
  (variants.find? fun variant => p variant.1).map Prod.snd

/-- The variant that suits a request best: the same locale; then, unless the root locale is
    requested, the language without a region, then the language with any region; then the root
    locale; then the first variant. -/
def selectVariant (variants : List (Locale × α)) (request : Locale) : Option α :=
  findVariant (· == request) variants
    <|> (if request.isRoot then none
      else findVariant (fun l => l.language == request.language && l.region.isNone) variants
        <|> findVariant (fun l => l.language == request.language) variants)
    <|> findVariant Locale.isRoot variants
    <|> variants.head?.map Prod.snd

theorem mem_of_findVariant {p : Locale → Bool} {variants : List (Locale × α)} {a : α}
    (h : findVariant p variants = some a) : ∃ l, (l, a) ∈ variants := by
  simp only [findVariant, Option.map_eq_some_iff] at h
  obtain ⟨⟨l, b⟩, hf, rfl⟩ := h
  exact ⟨l, List.mem_of_find?_eq_some hf⟩

theorem mem_of_selectVariant {variants : List (Locale × α)} {request : Locale} {a : α}
    (h : selectVariant variants request = some a) : ∃ l, (l, a) ∈ variants := by
  simp only [selectVariant, Option.orElse_eq_orElse, Option.orElse_eq_or, Option.or_eq_some_iff] at h
  rcases h with h | ⟨-, h | ⟨-, h | ⟨-, h⟩⟩⟩
  · exact mem_of_findVariant h
  · split at h
    · simp at h
    · simp only [Option.or_eq_some_iff] at h
      rcases h with h | ⟨-, h⟩ <;> exact mem_of_findVariant h
  · exact mem_of_findVariant h
  · simp only [Option.map_eq_some_iff] at h
    obtain ⟨⟨l, b⟩, hf, rfl⟩ := h
    exact ⟨l, List.mem_of_mem_head? hf⟩

end Variants

end Phrasebook
