import Phrasebook.Message.Settings

/-! # Entries of settings

    When an entry is added, what is said of all values, and which values become messages. -/

namespace Phrasebook

namespace Settings

variable {V : Type} {settings : Settings V} {key : SettingKey} {value : V}

/-- What holds of all values holds of those of entries and of that for everything else. -/
theorem forall_mem_values {p : V → Prop} :
    (∀ value ∈ settings.values, p value) ↔
      (∀ entry ∈ settings.entries, p entry.2) ∧ ∀ value ∈ settings.otherwise, p value := by
  rw [values, List.forall_mem_append, List.forall_mem_map]
  simp only [Option.mem_toList, Option.mem_def]

theorem insert_of_mem (h : key ∈ settings.keys) :
    settings.insert key value = .error ⟨some key⟩ := by
  rw [insert, if_pos (get?_isSome_iff.2 h)]

theorem insert_of_not_mem (h : key ∉ settings.keys) :
    settings.insert key value =
      .ok { settings with entries := settings.entries ++ [(key, value)] } := by
  rw [insert, if_neg (by rwa [get?_isSome_iff])]

/-- The values that become messages: those of keys that compare, and the one for everything else.
    Names are options of formatters. -/
def messageValues (settings : Settings V) : List V :=
  (settings.entries.filter fun entry => entry.1.kind ≠ .name).map Prod.snd ++
    settings.otherwise.toList

theorem mem_values_of_mem_messageValues (h : value ∈ settings.messageValues) :
    value ∈ settings.values := by
  rcases List.mem_append.1 h with h | h
  · obtain ⟨entry, he, rfl⟩ := List.mem_map.1 h
    exact List.mem_append_left _ (List.mem_map_of_mem (List.mem_filter.1 he).1)
  · exact List.mem_append_right _ h

end Settings

end Phrasebook
