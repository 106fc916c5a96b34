import Phrasebook.Template.Nesting

/-!
# Parameters that a message mentions

`Message.mentioned` collects the names of all placeholders that rendering may reach, with those in
strings that are read as templates. A string that is no template mentions nothing.
-/

namespace Phrasebook

/-- Names of the placeholders of a message and of everything among their settings. -/
def Message.mentioned : Message → List String
  | .localized variants => variants.attach.flatMap fun ⟨(_, variant), _⟩ => variant.mentioned
  | .coded _ inner => inner.mentioned
  | message => message.parts.attach.flatMap fun
    | ⟨.literal _, _⟩ => []
    | ⟨.placeholder place, _hp⟩ =>
      place.name :: place.settings.values.attach.flatMap fun ⟨value, _hv⟩ =>
        match _hm : value.toMessage with
        | .ok inner => inner.mentioned
        | .error _ => []
termination_by message => message.rank
decreasing_by
  · rename_i h
    exact Message.rank_lt_of_mem_localized h
  · exact Message.rank_lt_coded _ _
  · exact Nat.lt_of_le_of_lt (SettingValue.rank_le_of_toMessage _hm)
      (SettingValue.rank_lt_of_mem _hp _hv)

/-- The mentioned names in order of code points without repetition. -/
def Message.mentionedNames (message : Message) : List String := sortNames message.mentioned

end Phrasebook
