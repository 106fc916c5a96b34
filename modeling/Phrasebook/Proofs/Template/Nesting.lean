import Phrasebook.Proofs.Message.Settings
import Phrasebook.Template.Nesting

/-! # What rendering a message may go on to

    A message nests its variants, the message behind its code, and what the settings of its
    placeholders are read as. Strings may be no templates, so reading them may fail. What is nested
    ranks lower: messages can be taken up from those that nest nothing. -/

namespace Phrasebook

namespace Message

/-- What rendering a message may go on to, or the error of a string that is no template. -/
inductive Nests : Message → Except TemplateError Message → Prop
  /-- A variant. -/
  | variant {variants : List (Locale × Message)} {variant : Locale × Message}
      (h : variant ∈ variants) : Nests (.localized variants) (.ok variant.2)
  /-- The message behind a code. -/
  | coded (code : String) (inner : Message) : Nests (.coded code inner) (.ok inner)
  /-- What a value in the settings of a placeholder is read as. -/
  | value {message : Message} {place : Placeholder} {value : SettingValue}
      {read : Except TemplateError Message} (hp : .placeholder place ∈ message.parts)
      (hv : value ∈ place.settings.messageValues) (hr : value.toMessage = read) : Nests message read

theorem Nests.rank_lt {message inner : Message} (h : message.Nests (.ok inner)) :
    inner.rank < message.rank := by
  cases h with
  | variant h => exact rank_lt_of_mem_localized h
  | coded code => exact rank_lt_coded code inner
  | value hp hv hr =>
    have hle := SettingValue.rank_le_of_toMessage hr
    have hlt := SettingValue.rank_lt_of_mem hp (Settings.mem_values_of_mem_messageValues hv)
    omega

/-- A literal nests nothing. -/
theorem not_nests_literal (text : Literal) (read : Except TemplateError Message) :
    ¬ (Message.single (.literal text)).Nests read := by
  intro h
  cases h with
  | value hp => simp [parts] at hp

/-- What holds of a message as long as it holds of what it nests, holds of all messages. -/
theorem nests_induction {motive : Message → Prop}
    (step : ∀ message : Message,
      (∀ inner, message.Nests (.ok inner) → motive inner) → motive message)
    (message : Message) : motive message := by
  induction hn : message.rank using Nat.strongRecOn generalizing message with
  | ind n ih =>
    subst hn
    exact step message fun inner hi => ih _ hi.rank_lt inner rfl

/-- Every string that may become a message is a template, and so it is in these messages. -/
inductive WellNested : Message → Prop
  /-- Nothing fails to be read, and what is read is well nested. -/
  | intro {message : Message} (read : ∀ e, ¬ message.Nests (.error e))
      (inners : ∀ inner, message.Nests (.ok inner) → inner.WellNested) : message.WellNested

theorem WellNested.not_nests_error {message : Message} (h : message.WellNested)
    (e : TemplateError) : ¬ message.Nests (.error e) := by
  cases h with
  | intro read inners => exact read e

theorem WellNested.of_nests {message inner : Message} (h : message.WellNested)
    (hi : message.Nests (.ok inner)) : inner.WellNested := by
  cases h with
  | intro read inners => exact inners inner hi

end Message

end Phrasebook
