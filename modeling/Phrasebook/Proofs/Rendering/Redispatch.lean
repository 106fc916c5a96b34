import Phrasebook.Proofs.Rendering.Bounded
import Phrasebook.Proofs.Rendering.Dispatch

/-! # What formatters go back to

    A formatter goes back to formatters only with a value that is smaller, or as great after the
    format was spent (`Redispatches`): a list goes on with its elements, `size` and `clip` with the
    value itself but without their own name. So one use of a formatter is the same for all ways of
    formatting that agree on such values (`formatStep_congr`).

    A value is as great as the number of values in it; parameters are as great as the greatest of
    their values. -/

namespace Phrasebook

/-! ### Sizes of values -/

namespace Value

mutual

/-- Number of values that a value consists of. -/
def size : Value → Nat
  | null | bool _ | integer _ _ | float _ _ | char _ | string _ | object _ _ => 1
  | list values => sizeAll values + 1
  | map entries => sizeEntries entries + 1
  | optional value => sizeOption value + 1
  | supplier value => value.size + 1

/-- Number of values in a list. -/
def sizeAll : List Value → Nat
  | [] => 0
  | value :: values => value.size + sizeAll values

/-- Number of values in the entries of a map. -/
def sizeEntries : List (Value × Value) → Nat
  | [] => 0
  | (key, value) :: entries => key.size + value.size + sizeEntries entries

/-- Number of values in one that may be absent. -/
def sizeOption : Option Value → Nat
  | none => 0
  | some value => value.size

end

theorem size_pos (value : Value) : 0 < value.size := by
  cases value <;> simp [size]

@[simp] theorem size_ofCount (n : Nat) : (ofCount n).size = 1 := by
  unfold ofCount
  split <;> simp [size]

theorem size_le_sizeAll {value : Value} {values : List Value} (h : value ∈ values) :
    value.size ≤ sizeAll values := by
  induction values with
  | nil => cases h
  | cons first values ih =>
    rw [sizeAll]
    rcases List.mem_cons.1 h with rfl | h
    · omega
    · have := ih h
      omega

theorem size_le_sizeEntries {entry : Value × Value} {entries : List (Value × Value)}
    (h : entry ∈ entries) : entry.1.size + entry.2.size ≤ sizeEntries entries := by
  induction entries with
  | nil => cases h
  | cons first entries ih =>
    rw [sizeEntries]
    rcases List.mem_cons.1 h with rfl | h
    · exact Nat.le_add_right _ _
    · exact Nat.le_trans (ih h) (Nat.le_add_left _ _)

/-- What is inside a value is smaller. -/
theorem Inside.size_lt {inner value : Value} (h : inner.Inside value) :
    inner.size < value.size := by
  cases h with
  | element h =>
    have := size_le_sizeAll h
    rw [size]
    omega
  | key h =>
    have := size_le_sizeEntries h
    rw [size]
    omega
  | value h =>
    have := size_le_sizeEntries h
    rw [size]
    omega
  | present inner =>
    rw [size, sizeOption]
    omega
  | supplied inner =>
    rw [size]
    omega

end Value

/-- The greatest size of a value; null, which stands in for what is not supplied, has size one. -/
def Parameters.size (parameters : Parameters) : Nat :=
  parameters.values.foldr (fun entry size => max entry.2.size size) 1

theorem Parameters.size_le {parameters : Parameters} {name : String} {value : Value}
    (h : parameters.get? name = some value) : value.size ≤ parameters.size := by
  obtain ⟨locale, values⟩ := parameters
  have hmem : (name, value) ∈ values := Registry.mem_of_lookup h
  clear h
  unfold Parameters.size
  induction values with
  | nil => exact absurd hmem List.not_mem_nil
  | cons entry values ih =>
    rw [List.foldr_cons]
    rcases List.mem_cons.1 hmem with rfl | hmem
    · exact Nat.le_max_left _ _
    · exact Nat.le_trans (ih hmem) (Nat.le_max_right _ _)

theorem Parameters.one_le_size (parameters : Parameters) : 1 ≤ parameters.size := by
  unfold Parameters.size
  induction parameters.values with
  | nil => exact Nat.le_refl 1
  | cons entry values ih => exact Nat.le_trans ih (Nat.le_max_right _ _)

/-- The value of a parameter is no greater than the greatest one. -/
theorem Context.size_le_of_valueOf {context : Context} {parameters : Parameters} {name : String}
    {value : Value} (h : context.valueOf parameters name = .ok value) :
    value.size ≤ parameters.size := by
  unfold Context.valueOf at h
  split at h
  · rename_i supplied hs
    obtain rfl := Except.ok.inj h
    exact Parameters.size_le hs
  · split at h
    · cases h
    · obtain rfl := Except.ok.inj h
      exact parameters.one_le_size

/-! ### What formatters go back to -/

/-- Formatting a value may go back to another one: it is smaller, or as great while a format was
    spent on the way. -/
def Redispatches (format : Option String) (value : Value) (format' : Option String)
    (value' : Value) : Prop :=
  Prod.Lex (· < ·) (· < ·) (value'.size, pendingFormat format') (value.size, pendingFormat format)

theorem Redispatches.of_inside {format format' : Option String} {value inner : Value}
    (h : inner.Inside value) : Redispatches format value format' inner :=
  Prod.Lex.left _ _ h.size_lt

theorem Redispatches.of_isSome {format : Option String} {value value' : Value}
    (hf : format.isSome) (hv : value'.size ≤ value.size) :
    Redispatches format value none value' := by
  unfold Redispatches
  rcases Nat.lt_or_eq_of_le hv with h | h
  · exact Prod.Lex.left _ _ h
  · rw [h, pendingFormat, pendingFormat, hf]
    exact Prod.Lex.right _ (by decide)

/-- One measure for both: a format counts less than a value. -/
theorem Redispatches.lt {format format' : Option String} {value value' : Value}
    (h : Redispatches format value format' value') :
    2 * value'.size + pendingFormat format' < 2 * value.size + pendingFormat format := by
  have hone : pendingFormat format' ≤ 1 := by
    unfold pendingFormat
    split <;> omega
  rcases Prod.lex_def.1 h with h | ⟨h, h'⟩
  · dsimp only at h
    omega
  · dsimp only at h h'
    omega

section Congr

variable {call : FormatCall} {nested nested' : SettingValue → Bounded Fragment}
  {self self' : ValueFormatter}

theorem selectStep_congr {value : Value} {kinds : List KeyKind} {otherwise : Bool}
    {alternative alternative' : Bounded Fragment}
    (hn : ∀ v ∈ call.settings.values, nested v = nested' v) (ha : alternative = alternative') :
    selectStep call nested value kinds otherwise alternative =
      selectStep call nested' value kinds otherwise alternative' := by
  unfold selectStep
  split
  · rename_i chosen hc
    exact hn chosen (FormatCall.mem_values_of_select hc)
  · exact ha

theorem textStep_congr {null : String} {value : Value} (h : self none value = self' none value) :
    textStep self null value = textStep self' null value := by
  unfold textStep
  rw [h]

theorem entryStep_congr {entry : Value × Value} (hk : self none entry.1 = self' none entry.1)
    (hv : self none entry.2 = self' none entry.2) :
    entryStep call self entry = entryStep call self' entry := by
  unfold entryStep
  rw [textStep_congr hk, textStep_congr hv]

/-- One use of a formatter does not depend on how anything is formatted but smaller values, and
    values of the same size once the format is spent; nor on anything but settings of the call. -/
theorem formatStep_congr (hb : call.context.registry.AllBuiltin)
    (ht : call.context.registry.Typed) {format : Option String} {value : Value}
    (hn : ∀ v ∈ call.settings.values, nested v = nested' v)
    (hs : ∀ format' value', Redispatches format value format' value' →
      self format' value' = self' format' value') :
    formatStep call nested self format value = formatStep call nested' self' format value := by
  have hselect {v : Value} {kinds : List KeyKind} {otherwise : Bool}
      {alternative alternative' : Bounded Fragment} (ha : alternative = alternative') :
      selectStep call nested v kinds otherwise alternative =
        selectStep call nested' v kinds otherwise alternative' :=
    selectStep_congr hn ha
  have hinside {format' : Option String} {inner : Value} (h : inner.Inside value) :
      self format' inner = self' format' inner :=
    hs format' inner (.of_inside h)
  obtain ⟨kind, hk⟩ := hb.resolve format value.typeName
  unfold formatStep
  rw [hk]
  cases kind with
  | string =>
    refine hselect ?_
    split
    · rfl
    · exact hselect rfl
  | number => exact hselect (hselect rfl)
  | bool =>
    refine hselect ?_
    split
    · rfl
    · exact hselect rfl
  | choice => exact hselect rfl
  | size =>
    -- it has no type, so it was asked for; the size itself is as small as a value can be
    have hsome := ht.isSome_of_resolve hk rfl
    refine hselect (hs none _ (.of_isSome hsome ?_))
    rw [Value.size_ofCount]
    exact value.size_pos
  | clip =>
    have hsome := ht.isSome_of_resolve hk rfl
    refine hselect ?_
    split
    · rfl
    · rw [hs none value (.of_isSome hsome (Nat.le_refl _))]
  | list =>
    refine hselect ?_
    split
    · rename_i values
      rw [mapM_congr fun element he => hinside (.element he)]
    · rfl
  | map =>
    refine hselect ?_
    split
    · rename_i entries
      rw [mapM_congr fun entry he => entryStep_congr (hinside (.key he)) (hinside (.value he))]
    · rfl
  | optional =>
    refine hselect ?_
    split
    · exact hinside (.present _)
    · rfl
  | supplier =>
    dsimp only
    split
    · exact hinside (.supplied _)
    · rfl

end Congr

end Phrasebook
