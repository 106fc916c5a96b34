import Phrasebook.Proofs.Ranking
import Phrasebook.Selection

/-! # Which entry is selected

    The search for the strongest entry stops at exact matches. It finds what a search through all
    entries finds (`strongest_eq_strongestOfAll`), the first of the strongest entries (`Leads`), so
    only the order of the strengths matters. -/

namespace Phrasebook

namespace Strength

theorem isMatch_iff {s : Strength} : s.isMatch = true ↔ 0 < s.level := by
  cases s <;> decide

theorem level_le (s : Strength) : s.level ≤ exact.level := by
  cases s <;> decide

theorem level_injective {s t : Strength} (h : s.level = t.level) : s = t := by
  cases s <;> cases t <;> first | rfl | cases h

end Strength

section Search

variable {V : Type} {s t : SettingKey → Strength} {entries : List (SettingKey × V)}
  {best : Option (V × Strength)} {key : SettingKey} {value : V}

theorem beats_iff {strength : Strength} :
    beats strength best = true ↔ ((best.map Prod.snd).getD .mismatch).level < strength.level := by
  cases best with
  | none => exact Strength.isMatch_iff
  | some found => exact decide_eq_true_iff

/-! ### The first of the strongest entries -/

/-- A value is that of the first strongest entry, and the entry matches. -/
def Leads (s : SettingKey → Strength) (value : V) (entries : List (SettingKey × V)) : Prop :=
  ∃ front key back, entries = front ++ (key, value) :: back ∧ (s key).isMatch = true ∧
    (∀ entry ∈ front, (s entry.1).level < (s key).level) ∧
    ∀ entry ∈ back, (s entry.1).level ≤ (s key).level

/-- What is found stays if nothing is stronger. -/
theorem strongest_of_found {strength : Strength} (hs : strength ≠ .exact)
    (h : ∀ entry ∈ entries, (s entry.1).level ≤ strength.level) :
    strongest s (some (value, strength)) entries = some value := by
  induction entries with
  | nil => rfl
  | cons entry entries ih =>
    obtain ⟨hle, h⟩ := List.forall_mem_cons.1 h
    have hlt : strength.level < Strength.exact.level := by
      have hne : strength.level ≠ Strength.exact.level := fun he => hs (Strength.level_injective he)
      have := strength.level_le
      omega
    have hexact : s entry.1 ≠ .exact := by
      intro he
      rw [he] at hle
      omega
    have hbeats : ¬ beats (s entry.1) (some (value, strength)) = true := by
      rw [beats_iff]
      exact Nat.not_lt.2 hle
    rw [strongest, if_neg hexact, if_neg hbeats]
    exact ih h

/-- The search comes to the first strongest entry, whatever weaker one it has found before. -/
theorem strongest_of_forall {front back : List (SettingKey × V)}
    (hbest : beats (s key) best = true)
    (hfront : ∀ entry ∈ front, (s entry.1).level < (s key).level)
    (hback : ∀ entry ∈ back, (s entry.1).level ≤ (s key).level) :
    strongest s best (front ++ (key, value) :: back) = some value := by
  induction front generalizing best with
  | nil =>
    rw [List.nil_append, strongest]
    by_cases hexact : s key = .exact
    · rw [if_pos hexact]
    · rw [if_neg hexact, if_pos hbest]
      exact strongest_of_found hexact hback
  | cons entry front ih =>
    obtain ⟨hlt, hfront⟩ := List.forall_mem_cons.1 hfront
    have hexact : s entry.1 ≠ .exact := by
      intro he
      have hle := (s key).level_le
      rw [he] at hlt
      omega
    rw [List.cons_append, strongest, if_neg hexact]
    refine ih ?_ hfront
    -- the entry may take the place of what was found, but it is weaker as well
    split
    · exact beats_iff.2 hlt
    · exact hbest

theorem strongest_of_mismatch (h : ∀ entry ∈ entries, s entry.1 = .mismatch) :
    strongest s none entries = none := by
  induction entries with
  | nil => rfl
  | cons entry entries ih =>
    obtain ⟨hentry, h⟩ := List.forall_mem_cons.1 h
    have hbeats : ¬ beats .mismatch (none : Option (V × Strength)) = true := fun hbeats =>
      Nat.lt_irrefl 0 (beats_iff.1 hbeats)
    rw [strongest, hentry, if_neg (by decide), if_neg hbeats]
    exact ih h

theorem Leads.strongest_eq (h : Leads s value entries) :
    strongest s none entries = some value := by
  obtain ⟨front, key, back, rfl, hmatch, hfront, hback⟩ := h
  exact strongest_of_forall hmatch hfront hback

/-- Some entry leads unless none matches. -/
theorem mismatch_or_leads (s : SettingKey → Strength) (entries : List (SettingKey × V)) :
    (∀ entry ∈ entries, s entry.1 = .mismatch) ∨ ∃ value, Leads s value entries := by
  cases hmax : entries.argmax fun entry => (s entry.1).level with
  | none =>
    obtain rfl := List.argmax_eq_none.1 hmax
    exact .inl (by simp)
  | some entry =>
    obtain ⟨key, value⟩ := entry
    by_cases hkey : s key = .mismatch
    · -- no entry is stronger than one that does not match
      refine .inl fun other ho => ?_
      have hle := List.le_of_mem_argmax ho hmax
      dsimp only at hle
      rw [hkey] at hle
      exact Strength.level_injective (Nat.le_zero.1 hle)
    · obtain ⟨front, back, hentries, hfront, hback⟩ := exists_of_argmax hmax
      exact .inr ⟨value, front, key, back, hentries, bne_iff_ne.2 hkey, hfront, hback⟩

/-! ### Only the order matters -/

/-- Keys match in two ways that order them alike, and the same keys match. -/
structure OrderedAlike (s t : SettingKey → Strength) (keys : List SettingKey) : Prop where
  /-- The same keys match. -/
  isMatch : ∀ key ∈ keys, (s key).isMatch = (t key).isMatch
  /-- The same keys match more strongly than others. -/
  level_lt : ∀ key ∈ keys, ∀ other ∈ keys,
    (s key).level < (s other).level ↔ (t key).level < (t other).level

theorem OrderedAlike.of_eq {keys : List SettingKey} (h : ∀ key ∈ keys, s key = t key) :
    OrderedAlike s t keys where
  isMatch key hkey := by rw [h key hkey]
  level_lt key hkey other hother := by rw [h key hkey, h other hother]

/-- Ways to match that differ by the strength of their best matches order keys alike. -/
theorem OrderedAlike.of_eq_or {keys : List SettingKey} {limit : Nat} {top top' : Strength}
    (htop : limit < top.level) (htop' : limit < top'.level)
    (h : ∀ key ∈ keys,
      s key = top ∧ t key = top' ∨ s key = t key ∧ (t key).level ≤ limit) :
    OrderedAlike s t keys where
  isMatch key hkey := by
    rcases h key hkey with ⟨hs, ht⟩ | ⟨heq, -⟩
    · have hmatch : top.isMatch = true := Strength.isMatch_iff.2 (Nat.zero_lt_of_lt htop)
      have hmatch' : top'.isMatch = true := Strength.isMatch_iff.2 (Nat.zero_lt_of_lt htop')
      rw [hs, ht, hmatch, hmatch']
    · rw [heq]
  level_lt key hkey other hother := by
    -- either key may be one of the best
    rcases h key hkey with ⟨hs, ht⟩ | ⟨heq, hle⟩ <;>
      rcases h other hother with ⟨hs', ht'⟩ | ⟨heq', hle'⟩
    · rw [hs, hs', ht, ht']
      omega
    · rw [hs, ht, heq']
      omega
    · rw [heq, hs', ht']
      omega
    · rw [heq, heq']

theorem OrderedAlike.leads (h : OrderedAlike s t (entries.map Prod.fst))
    (hleads : Leads s value entries) : Leads t value entries := by
  obtain ⟨front, key, back, rfl, hmatch, hfront, hback⟩ := hleads
  have hmem : ∀ entry ∈ front ++ (key, value) :: back,
      entry.1 ∈ (front ++ (key, value) :: back).map Prod.fst := fun entry he =>
    List.mem_map_of_mem he
  have hkey := hmem (key, value) (by simp)
  refine ⟨front, key, back, rfl, (h.isMatch key hkey) ▸ hmatch, ?_, ?_⟩
  · intro entry he
    have hentry := hmem entry (by simp [he])
    exact (h.level_lt _ hentry _ hkey).1 (hfront entry he)
  · intro entry he
    have hentry := hmem entry (by simp [he])
    have hnot := mt (h.level_lt _ hkey _ hentry).2 (Nat.not_lt.2 (hback entry he))
    exact Nat.not_lt.1 hnot

theorem OrderedAlike.strongest_eq (h : OrderedAlike s t (entries.map Prod.fst)) :
    strongest s none entries = strongest t none entries := by
  rcases mismatch_or_leads s entries with hnone | ⟨value, hleads⟩
  · have hnone' : ∀ entry ∈ entries, t entry.1 = .mismatch := by
      intro entry he
      have hmatch := h.isMatch entry.1 (List.mem_map_of_mem he)
      rw [hnone entry he] at hmatch
      exact bne_eq_false_iff_eq.1 hmatch.symm
    rw [strongest_of_mismatch hnone, strongest_of_mismatch hnone']
  · rw [hleads.strongest_eq, (h.leads hleads).strongest_eq]

/-- Keys of the wanted kinds that are ordered alike have the same value selected. -/
theorem Settings.select_congr {settings : Settings V} {kinds : List KeyKind}
    (otherwise : Bool)
    (h : OrderedAlike s t (settings.keys.filter fun key => key.kind ∈ kinds)) :
    settings.select kinds otherwise s = settings.select kinds otherwise t := by
  have hkeys : (settings.entries.filter fun entry => entry.1.kind ∈ kinds).map Prod.fst =
      settings.keys.filter fun key => key.kind ∈ kinds := by
    rw [Settings.keys, List.filter_map]
    rfl
  unfold Settings.select
  dsimp only
  rw [OrderedAlike.strongest_eq (hkeys ▸ h)]

/-! ### A search without an end -/

/-- What is found behind an entry: a stronger one takes the place of what was found. -/
def strongerOf (s : SettingKey → Strength) (best : Option (V × Strength))
    (entry : SettingKey × V) : Option (V × Strength) :=
  if beats (s entry.1) best then some (entry.2, s entry.1) else best

/-- The strongest entry, found by a search that no exact match ends. -/
def strongestOfAll (s : SettingKey → Strength) (entries : List (SettingKey × V)) : Option V :=
  (entries.foldl (strongerOf s) none).map Prod.fst

/-- Nothing takes the place of an exact match. -/
theorem foldl_strongerOf_exact (s : SettingKey → Strength) (value : V)
    (entries : List (SettingKey × V)) :
    entries.foldl (strongerOf s) (some (value, .exact)) = some (value, .exact) := by
  induction entries with
  | nil => rfl
  | cons entry entries ih =>
    have hbeats : ¬ beats (s entry.1) (some (value, Strength.exact)) = true := by
      rw [beats_iff]
      exact Nat.not_lt.2 (s entry.1).level_le
    rw [List.foldl_cons, strongerOf, if_neg hbeats]
    exact ih

theorem beats_exact (hbest : best.map Prod.snd ≠ some .exact) : beats .exact best = true := by
  cases best with
  | none => rfl
  | some found =>
    have hne : found.2.level ≠ Strength.exact.level := fun h =>
      hbest (congrArg some (Strength.level_injective h))
    have hle := found.2.level_le
    rw [beats_iff]
    show found.2.level < Strength.exact.level
    omega

theorem strongest_eq_foldl (hbest : best.map Prod.snd ≠ some .exact) :
    strongest s best entries = (entries.foldl (strongerOf s) best).map Prod.fst := by
  induction entries generalizing best with
  | nil => rfl
  | cons entry entries ih =>
    rw [strongest, List.foldl_cons]
    by_cases hexact : s entry.1 = .exact
    · -- the search stops here, and going on would not change what was found
      rw [if_pos hexact, strongerOf, hexact, if_pos (beats_exact hbest), foldl_strongerOf_exact]
      rfl
    · rw [if_neg hexact]
      refine ih ?_
      split
      · exact fun h => hexact (Option.some.inj h)
      · exact hbest

theorem strongest_eq_strongestOfAll (s : SettingKey → Strength)
    (entries : List (SettingKey × V)) :
    strongest s none entries = strongestOfAll s entries :=
  strongest_eq_foldl (by simp)

/-! ### The entry that is selected -/

theorem Leads.not_mismatch (h : Leads s value entries) :
    ¬ ∀ entry ∈ entries, s entry.1 = .mismatch := by
  intro hnone
  obtain ⟨front, key, back, rfl, hmatch, -, -⟩ := h
  exact bne_iff_ne.1 hmatch (hnone (key, value) (by simp))

/-- The first strongest entry is selected, or else what is set for everything else. -/
theorem Settings.select_eq_some_iff {settings : Settings V} {kinds : List KeyKind}
    {otherwise : Bool} :
    settings.select kinds otherwise s = some value ↔
      Leads s value (settings.entries.filter fun entry => entry.1.kind ∈ kinds) ∨
        (∀ entry ∈ settings.entries.filter fun entry => entry.1.kind ∈ kinds,
          s entry.1 = .mismatch) ∧ otherwise = true ∧ settings.otherwise = some value := by
  unfold Settings.select
  dsimp only
  generalize settings.entries.filter _ = wanted
  rcases mismatch_or_leads s wanted with hnone | ⟨leader, hleads⟩
  · rw [strongest_of_mismatch hnone, or_iff_right fun h => h.not_mismatch hnone,
      and_iff_right hnone]
    cases otherwise <;> simp
  · rw [hleads.strongest_eq, or_iff_left fun h => hleads.not_mismatch h.1]
    constructor
    · intro h
      exact Option.some.inj h ▸ hleads
    · intro h
      exact hleads.strongest_eq.symm.trans h.strongest_eq

theorem Settings.select_eq_strongestOfAll (settings : Settings V) (kinds : List KeyKind)
    (otherwise : Bool) (s : SettingKey → Strength) :
    settings.select kinds otherwise s =
      (strongestOfAll s (settings.entries.filter fun entry => entry.1.kind ∈ kinds)).or
        (if otherwise then settings.otherwise else none) := by
  unfold Settings.select
  dsimp only
  rw [strongest_eq_strongestOfAll]
  cases strongestOfAll s _ <;> rfl

/-- Among the entries of the wanted kinds the first is selected whose key matches the value most
    strongly, if it matches at all, and the value for everything else if no key matches and it is
    asked for. A search that goes on behind exact matches selects the same. -/
theorem Settings.select_first_strongest (settings : Settings V) (kinds : List KeyKind)
    (otherwise : Bool) (context : MatchContext) (value : Value) :
    let strength := matchKey context value
    let wanted := settings.entries.filter fun entry => entry.1.kind ∈ kinds
    (∀ chosen, settings.select kinds otherwise strength = some chosen ↔
      Leads strength chosen wanted ∨ (∀ entry ∈ wanted, strength entry.1 = .mismatch) ∧
        otherwise = true ∧ settings.otherwise = some chosen) ∧
    settings.select kinds otherwise strength =
      (strongestOfAll strength wanted).or (if otherwise then settings.otherwise else none) := by
  intro strength wanted
  exact ⟨fun chosen => Settings.select_eq_some_iff,
    settings.select_eq_strongestOfAll kinds otherwise strength⟩

/-- An exact match behind a lenient one is selected, and the first of two lenient ones. -/
example :
    let settings : Settings String :=
      ⟨[(.number .gt 1, "many"), (.number .eq 5, "five"), (.number .ge 2, "some")], some "other"⟩
    let selected n := settings.select [.number] true (matchKey (.ofLocale .root) (.integer .i64 n))
    selected 5 = some "five" ∧ selected 7 = some "many" ∧ selected 0 = some "other" := by
  decide

end Search

end Phrasebook
