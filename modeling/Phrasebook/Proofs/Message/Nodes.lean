import Mathlib.Algebra.Ring.Nat
import Phrasebook.Message.Basic

/-! # Counting the nodes of a message

    Messages, parts, entries of settings, values for everything else, and variants are nodes. The
    count is that of a tree: what occurs several times counts each time. -/

namespace Phrasebook

/-! ### Nodes -/

mutual

/-- Nodes of a message: itself and those below it. -/
def Message.nodes : Message → Nat
  | .empty => 1
  | .single part => part.nodes + 1
  | .multiple parts => Part.nodesAll parts + 1
  | .localized variants => Message.nodesVariants variants + 1
  | .coded _ message => message.nodes + 1

/-- Nodes of a part. -/
def Part.nodes : Part → Nat
  | .literal _ => 1
  | .placeholder place => place.nodes

/-- Nodes of a placeholder: the part that it is, and those of its settings. -/
def Placeholder.nodes : Placeholder → Nat
  | ⟨_, _, settings, _, _⟩ => Settings.nodes settings + 1

/-- Nodes of settings. -/
def Settings.nodes : Settings SettingValue → Nat
  | ⟨entries, otherwise⟩ =>
    SettingValue.nodesEntries entries + SettingValue.nodesOtherwise otherwise

/-- Nodes of entries: each is one, apart from those of its value. -/
def SettingValue.nodesEntries : List (SettingKey × SettingValue) → Nat
  | [] => 0
  | (_, value) :: entries => value.nodes + 1 + SettingValue.nodesEntries entries

/-- Nodes of a value for everything else: it is one, apart from those of the value. -/
def SettingValue.nodesOtherwise : Option SettingValue → Nat
  | none => 0
  | some value => value.nodes + 1

/-- Nodes of a value, which has some only if it is a message. -/
def SettingValue.nodes : SettingValue → Nat
  | .message message => message.nodes
  | .bool _ | .number _ | .string _ => 0

/-- Nodes of parts. -/
def Part.nodesAll : List Part → Nat
  | [] => 0
  | part :: parts => part.nodes + Part.nodesAll parts

/-- Nodes of variants: each is one, apart from its message. -/
def Message.nodesVariants : List (Locale × Message) → Nat
  | [] => 0
  | (_, message) :: variants => message.nodes + 1 + Message.nodesVariants variants

end

/-- A message is a node itself. -/
theorem Message.nodes_pos (message : Message) : 0 < message.nodes := by
  cases message <;> exact Nat.succ_pos _

/-- A part is a node itself. -/
theorem Part.nodes_pos (part : Part) : 0 < part.nodes := by
  cases part with
  | literal _ => exact Nat.succ_pos 0
  | placeholder place =>
    cases place
    exact Nat.succ_pos _

/-! ### Lists -/

theorem Part.nodesAll_eq_sum (parts : List Part) :
    Part.nodesAll parts = (parts.map Part.nodes).sum := by
  induction parts with
  | nil => rfl
  | cons part parts ih => rw [Part.nodesAll, ih, List.map_cons, List.sum_cons]

theorem Message.nodesVariants_eq_sum (variants : List (Locale × Message)) :
    Message.nodesVariants variants = (variants.map fun variant => variant.2.nodes + 1).sum := by
  induction variants with
  | nil => rfl
  | cons variant variants ih => rw [Message.nodesVariants, ih, List.map_cons, List.sum_cons]

theorem SettingValue.nodesEntries_append (entries : List (SettingKey × SettingValue))
    (key : SettingKey) (value : SettingValue) :
    SettingValue.nodesEntries (entries ++ [(key, value)]) =
      SettingValue.nodesEntries entries + (value.nodes + 1) := by
  induction entries with
  | nil =>
    simp only [List.nil_append, nodesEntries]
    omega
  | cons entry entries ih =>
    simp only [List.cons_append, nodesEntries, ih]
    omega

/-! ### Settings -/

namespace Settings

/-- An entry that is added is a node, and so are those of its value. -/
theorem nodes_insert {settings settings' : Settings SettingValue} {key : SettingKey}
    {value : SettingValue} (h : settings.insert key value = .ok settings') :
    nodes settings' = nodes settings + (value.nodes + 1) := by
  unfold insert at h
  split at h
  · cases h
  · obtain rfl := Except.ok.inj h
    rw [nodes, nodes, SettingValue.nodesEntries_append, Nat.add_right_comm]

/-- A value for everything else is a node, and so are those in it. -/
theorem nodes_otherwise_le (settings : Settings SettingValue) (value : SettingValue) :
    nodes { settings with otherwise := some value } ≤ nodes settings + (value.nodes + 1) := by
  rw [nodes, nodes, SettingValue.nodesOtherwise]
  omega

end Settings

end Phrasebook
