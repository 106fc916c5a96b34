import Phrasebook.Message.Basic

/-!
# Nesting of messages

Rendering a message may read strings among the settings as templates, whose placeholders have
strings again. The rank of a message bounds this nesting: a string counts as the length of its
source, a placeholder one more than the highest of its values, a variant or a code one more than
what is below. Whatever is reached from a message has a lower rank.
-/

namespace Phrasebook

mutual

/-- Rank of a message. -/
def Message.rank : Message → Nat
  | .empty => 0
  | .single part => part.rank
  | .multiple parts => Part.rankAll parts
  | .localized variants => Message.rankVariants variants + 1
  | .coded _ message => message.rank + 1

/-- Rank of a part; literal text has none. -/
def Part.rank : Part → Nat
  | .literal _ => 0
  | .placeholder place => place.rank

/-- Rank of a placeholder: one above its settings. -/
def Placeholder.rank : Placeholder → Nat
  | ⟨_, _, settings, _, _⟩ => Settings.rank settings + 1

/-- Highest rank of the values. -/
def Settings.rank : Settings SettingValue → Nat
  | ⟨entries, otherwise⟩ =>
    max (SettingValue.rankEntries entries) (SettingValue.rankOption otherwise)

/-- Highest rank of the values of entries. -/
def SettingValue.rankEntries : List (SettingKey × SettingValue) → Nat
  | [] => 0
  | (_, value) :: entries => max value.rank (SettingValue.rankEntries entries)

/-- Rank of an optional value. -/
def SettingValue.rankOption : Option SettingValue → Nat
  | none => 0
  | some value => value.rank

/-- Rank of a value. A string counts as the length of its source. -/
def SettingValue.rank : SettingValue → Nat
  | .bool _ => 0
  | .number _ => 0
  | .message message => message.rank
  | .string quoted => quoted.source.length

/-- Highest rank of the parts. -/
def Part.rankAll : List Part → Nat
  | [] => 0
  | part :: parts => max part.rank (Part.rankAll parts)

/-- Highest rank of the variants. -/
def Message.rankVariants : List (Locale × Message) → Nat
  | [] => 0
  | (_, message) :: variants => max message.rank (Message.rankVariants variants)

end

/-! ## What is reached has a lower rank -/

theorem Part.rank_le_rankAll {part : Part} {parts : List Part} (h : part ∈ parts) :
    part.rank ≤ Part.rankAll parts := by
  induction parts with
  | nil => simp at h
  | cons p ps ih =>
    simp only [Part.rankAll]
    rcases List.mem_cons.1 h with rfl | h
    · exact Nat.le_max_left _ _
    · exact Nat.le_trans (ih h) (Nat.le_max_right _ _)

theorem Part.rankAll_le {n : Nat} {parts : List Part} (h : ∀ part ∈ parts, part.rank ≤ n) :
    Part.rankAll parts ≤ n := by
  induction parts with
  | nil => simp [Part.rankAll]
  | cons p ps ih =>
    simp only [Part.rankAll]
    exact Nat.max_le.2 ⟨h p (by simp), ih fun q hq => h q (by simp [hq])⟩

theorem Message.rank_le_rankVariants {l : Locale} {message : Message}
    {variants : List (Locale × Message)} (h : (l, message) ∈ variants) :
    message.rank ≤ Message.rankVariants variants := by
  induction variants with
  | nil => simp at h
  | cons v vs ih =>
    obtain ⟨l', m'⟩ := v
    simp only [Message.rankVariants]
    rcases List.mem_cons.1 h with h | h
    · simp at h
      exact h.2 ▸ Nat.le_max_left _ _
    · exact Nat.le_trans (ih h) (Nat.le_max_right _ _)

theorem Placeholder.rank_eq (place : Placeholder) : place.rank = Settings.rank place.settings + 1 := by
  cases place
  rfl

theorem SettingValue.rank_le_rankEntries {key : SettingKey} {value : SettingValue}
    {entries : List (SettingKey × SettingValue)} (h : (key, value) ∈ entries) :
    value.rank ≤ SettingValue.rankEntries entries := by
  induction entries with
  | nil => simp at h
  | cons e es ih =>
    obtain ⟨key', value'⟩ := e
    simp only [SettingValue.rankEntries]
    rcases List.mem_cons.1 h with h | h
    · simp at h
      exact h.2 ▸ Nat.le_max_left _ _
    · exact Nat.le_trans (ih h) (Nat.le_max_right _ _)

theorem SettingValue.rankEntries_le {n : Nat} {entries : List (SettingKey × SettingValue)}
    (h : ∀ entry ∈ entries, entry.2.rank ≤ n) : SettingValue.rankEntries entries ≤ n := by
  induction entries with
  | nil => simp [SettingValue.rankEntries]
  | cons e es ih =>
    obtain ⟨key', value'⟩ := e
    simp only [SettingValue.rankEntries]
    exact Nat.max_le.2 ⟨h (key', value') (by simp), ih fun q hq => h q (by simp [hq])⟩

/-- A value ranks no higher than the settings that hold it. -/
theorem Settings.rank_of_mem_values {value : SettingValue} {settings : Settings SettingValue}
    (h : value ∈ settings.values) : value.rank ≤ Settings.rank settings := by
  obtain ⟨entries, otherwise⟩ := settings
  simp only [Settings.rank]
  simp only [Settings.values, List.mem_append, List.mem_map, Option.mem_toList] at h
  rcases h with ⟨⟨key, value'⟩, he, rfl⟩ | h
  · exact Nat.le_trans (SettingValue.rank_le_rankEntries he) (Nat.le_max_left _ _)
  · cases otherwise with
    | none => simp at h
    | some v =>
      simp at h
      subst h
      exact Nat.le_max_right _ _

/-- Settings rank no higher than a bound of their values. -/
theorem Settings.rank_le {n : Nat} {settings : Settings SettingValue}
    (h : ∀ value ∈ settings.values, value.rank ≤ n) : Settings.rank settings ≤ n := by
  obtain ⟨entries, otherwise⟩ := settings
  simp only [Settings.rank]
  refine Nat.max_le.2 ⟨SettingValue.rankEntries_le fun entry he => h _ ?_, ?_⟩
  · simp only [Settings.values, List.mem_append, List.mem_map]
    exact .inl ⟨entry, he, rfl⟩
  · cases otherwise with
    | none => simp [SettingValue.rankOption]
    | some v => exact h v (by simp [Settings.values])

/-- A value in the settings of a placeholder among the parts ranks below the message. -/
theorem SettingValue.rank_lt_of_mem {message : Message} {place : Placeholder}
    {value : SettingValue} (hp : Part.placeholder place ∈ message.parts)
    (hv : value ∈ place.settings.values) : value.rank < message.rank := by
  have h1 := Settings.rank_of_mem_values hv
  have h2 : (Part.placeholder place).rank ≤ message.rank := by
    cases message with
    | single part => simp [Message.parts] at hp; subst hp; simp [Message.rank]
    | multiple parts => exact Part.rank_le_rankAll hp
    | empty | localized _ | coded _ _ => simp [Message.parts] at hp
  simp only [Part.rank, Placeholder.rank_eq] at h2
  omega

theorem Message.rank_lt_of_mem_localized {l : Locale} {message : Message}
    {variants : List (Locale × Message)} (h : (l, message) ∈ variants) :
    message.rank < (Message.localized variants).rank := by
  have := Message.rank_le_rankVariants h
  simp only [Message.rank]
  omega

theorem Message.rank_lt_coded (code : String) (message : Message) :
    message.rank < (Message.coded code message).rank := by
  simp [Message.rank]

theorem Message.rank_ofText (text : String) : (Message.ofText text).rank = 0 := by
  rw [Message.ofText, Message.ofParts_literal]
  split <;> rfl

end Phrasebook
