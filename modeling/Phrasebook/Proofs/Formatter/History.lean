import Phrasebook.Formatter.Cache
import Phrasebook.Proofs.Formatter.Registry

/-! # What a registry answers follows from what was registered

    A registry is asked between registrations and declarations, and it remembers what it looked up.
    Its answers are those of its `History`, which knows nothing of caches and numbers:

    * `Registry.Tells`: the tables of a registry hold what was registered so far, in the order in
      which it is tried;
    * `CachedRegistry.Current`: remembered lists are those that would be looked up now.

    Every call keeps both, so every call in a sequence is answered from what came before it. -/

namespace Phrasebook

/-! ### Calls and their history -/

/-- A call on a registry. -/
inductive RegistryCall where
  /-- Registers a formatter. -/
  | register (formatter : Formatter)
  /-- Declares a type. -/
  | declareType (name : String) (super : Option String) (interfaces : List String)
  /-- Asks for the formatters of a type. -/
  | formattersFor (type : String)
  /-- Asks for the formatter of a format and a type. -/
  | resolve (format : Option String) (type : String)

/-- The registry behind a call. -/
def CachedRegistry.perform (r : CachedRegistry) : RegistryCall → CachedRegistry
  | .register formatter => r.register formatter
  | .declareType name super interfaces => r.declareType name super interfaces
  | .formattersFor type => ((formattersFor type).run r).2
  | .resolve format type => ((resolve format type).run r).2

/-- A new registry behind calls. -/
def CachedRegistry.after (calls : List RegistryCall) : CachedRegistry := calls.foldl perform .empty

/-- The calls on a registry so far. -/
abbrev History := List RegistryCall

namespace History

/-- The registered formatters in the order of their registration. -/
def registered (history : History) : List Formatter :=
  history.filterMap fun
    | .register formatter => some formatter
    | _ => none

/-- The graph of the declared types. -/
def types (history : History) : TypeGraph :=
  history.foldl
    (fun
      | graph, .declareType name super interfaces => graph.declare name super interfaces
      | graph, _ => graph)
    .standard

/-- The last formatter that was registered under a name. -/
def named? (history : History) (name : String) : Option Formatter :=
  (history.registered.filter fun formatter => formatter.name? = some name).getLast?

end History

/-- The orders of a formatter for a type, each with the formatter. -/
def Formatter.ranks (formatter : Formatter) (type : String) : List (Int × Formatter) :=
  (formatter.types.filter fun t => t.name = type).map fun t => (t.order, formatter)

/-- By ascending order; what comes first stays first among equal orders. -/
def byOrder (ranked : List (Int × Formatter)) : List (Int × Formatter) :=
  ranked.mergeSort fun a b => a.1 ≤ b.1

namespace History

/-- The formatters that were registered for exactly this type: by ascending order, and the latest
    first among equal orders. -/
def formattersOf (history : History) (type : String) : List Formatter :=
  (byOrder (history.registered.flatMap (Formatter.ranks · type)).reverse).map Prod.snd

/-- The formatters for a type: those of every type on its walk. -/
def formattersFor (history : History) (type : String) : List Formatter :=
  (history.types.walk type).flatMap history.formattersOf

/-- The formatter for a format and a type: the last one that the format names, else the first one
    for the type, else the one for strings. -/
def resolve (history : History) (format : Option String) (type : String) : Formatter :=
  ((format.filter (· ≠ "")).bind history.named? <|> (history.formattersFor type).head?).getD
    (.builtin .string)

end History
/-! ### Lists in order -/

theorem byOrder_cons (a : Int × Formatter) (ranked : List (Int × Formatter)) :
    ∃ front back, byOrder (a :: ranked) = front ++ a :: back ∧ byOrder ranked = front ++ back ∧
      (∀ b ∈ front, b.1 < a.1) ∧ ∀ b ∈ back, a.1 ≤ b.1 := by
  have trans (a b c : Int × Formatter) : decide (a.1 ≤ b.1) = true → decide (b.1 ≤ c.1) = true →
      decide (a.1 ≤ c.1) = true := by
    simp only [decide_eq_true_eq]
    omega
  have total (a b : Int × Formatter) : (decide (a.1 ≤ b.1) || decide (b.1 ≤ a.1)) = true := by
    simp only [Bool.or_eq_true, decide_eq_true_eq]
    omega
  obtain ⟨front, back, hcons, hrest, hfront⟩ := List.mergeSort_cons trans total a ranked
  refine ⟨front, back, hcons, hrest, fun b hb => ?_, fun b hb => ?_⟩
  · have := hfront b hb
    simp only [Bool.not_eq_true', decide_eq_false_iff_not] at this
    omega
  · -- what stands behind `a` in a sorted list is no smaller
    have hsorted := List.pairwise_mergeSort trans total (a :: ranked)
    rw [hcons] at hsorted
    have hback := (List.pairwise_cons.1 (List.pairwise_append.1 hsorted).2.1).1 b hb
    exact of_decide_eq_true hback

/-- The order of a registration with its formatter. -/
def Registration.rank (r : Registration) : Int × Formatter := (r.order, r.formatter)

/-- The registration is not newer than `r`, and only those of the same formatter are as new. -/
def Registration.NotAfter (s r : Registration) : Prop :=
  s.sequence < r.sequence ∨ s.sequence = r.sequence ∧ s.formatter = r.formatter

namespace Registry

/-- A new registration goes in front of those with its order. -/
theorem map_rank_insertRegistration {r : Registration} {rs : List Registration}
    {ranked : List (Int × Formatter)} (hseq : ∀ s ∈ rs, s.NotAfter r)
    (h : rs.map Registration.rank = byOrder ranked) :
    (insertRegistration r rs).map Registration.rank = byOrder (r.rank :: ranked) := by
  obtain ⟨front, back, hcons, hrest, hfront, hback⟩ := byOrder_cons r.rank ranked
  rw [hcons]
  rw [hrest] at h
  clear hcons hrest
  induction rs generalizing front back with
  | nil =>
    obtain ⟨rfl, rfl⟩ := List.append_eq_nil_iff.1 h.symm
    rfl
  | cons s rest ih =>
    have hrest : ∀ s ∈ rest, s.NotAfter r := fun s hs => hseq s (List.mem_cons_of_mem _ hs)
    cases front with
    | cons b front =>
      obtain ⟨rfl, htail⟩ := List.cons_eq_cons.1 h
      -- a lower order stays in front
      have hlt : s.order < r.order := hfront _ List.mem_cons_self
      have hp : r.precedes s = false := by
        simp only [Registration.precedes, Bool.or_eq_false_iff, Bool.and_eq_false_iff,
          decide_eq_false_iff_not, beq_eq_false_iff_ne]
        omega
      have := ih hrest front back htail (fun b hb => hfront b (List.mem_cons_of_mem _ hb)) hback
      rw [insertRegistration, if_neg (by simp [hp]), List.map_cons, this]
      rfl
    | nil =>
      rw [List.nil_append] at h ⊢
      rw [← h] at hback ⊢
      have hle : r.order ≤ s.order := hback _ List.mem_cons_self
      by_cases hp : r.precedes s = true
      · rw [insertRegistration, if_pos hp]
        rfl
      · -- only a registration of the same formatter with the same order is passed over
        have hsame : s.rank = r.rank := by
          simp only [Registration.precedes, Bool.or_eq_true, Bool.and_eq_true, decide_eq_true_eq,
            beq_iff_eq] at hp
          rcases hseq s List.mem_cons_self with hs | ⟨-, hf⟩
          · omega
          · have ho : s.order = r.order := by omega
            rw [Registration.rank, Registration.rank, ho, hf]
        have := ih hrest [] (rest.map Registration.rank) rfl
          (fun b hb => absurd hb List.not_mem_nil)
          (fun b hb => hback b (List.mem_cons_of_mem _ hb))
        rw [insertRegistration, if_neg hp, List.map_cons, List.map_cons, this, hsame]
        rfl

/-! ### Tables -/

/-- The registrations for exactly this type. -/
def registrationsOf (typed : List (String × List Registration)) (type : String) :
    List Registration :=
  (typed.lookup type).getD []

theorem registrationsOf_addTyped (name type : String) (r : Registration)
    (typed : List (String × List Registration)) :
    registrationsOf (addTyped name r typed) type =
      if name = type then insertRegistration r (registrationsOf typed type)
      else registrationsOf typed type := by
  unfold registrationsOf
  induction typed with
  | nil =>
    by_cases h : name = type
    · simp [addTyped, insertRegistration, h]
    · simp [addTyped, h, List.lookup_cons, beq_false_of_ne (Ne.symm h)]
  | cons entry rest ih =>
    obtain ⟨key, rs⟩ := entry
    unfold addTyped
    by_cases hk : name = key
    · subst hk
      by_cases h : name = type
      · simp [h]
      · simp [h, List.lookup_cons, beq_false_of_ne (Ne.symm h)]
    · rw [if_neg hk]
      by_cases ht : type = key
      · subst ht
        simp [hk]
      · simpa [List.lookup_cons, beq_false_of_ne ht] using ih

/-- Registering a formatter for one type after the other keeps the registrations of each type in
    order. -/
theorem map_rank_addTyped {formatter : Formatter} {sequence : Nat} {types : List FormattableType}
    {typed : List (String × List Registration)} {type : String}
    {ranked : List (Int × Formatter)}
    (hseq : ∀ s ∈ registrationsOf typed type, s.NotAfter ⟨0, sequence, formatter⟩)
    (h : (registrationsOf typed type).map Registration.rank = byOrder ranked) :
    let after := types.foldl
      (fun typed t => addTyped t.name ⟨t.order, sequence, formatter⟩ typed) typed
    let ranks := (types.filter fun t => t.name = type).map fun t => (t.order, formatter)
    (∀ s ∈ registrationsOf after type, s.NotAfter ⟨0, sequence, formatter⟩) ∧
      (registrationsOf after type).map Registration.rank = byOrder (ranks.reverse ++ ranked) := by
  induction types generalizing typed ranked with
  | nil => exact ⟨hseq, h⟩
  | cons t types ih =>
    by_cases ht : t.name = type
    · have hadd := registrationsOf_addTyped t.name type ⟨t.order, sequence, formatter⟩ typed
      rw [if_pos ht] at hadd
      have hnext := map_rank_insertRegistration (r := ⟨t.order, sequence, formatter⟩) hseq h
      have := @ih (addTyped t.name ⟨t.order, sequence, formatter⟩ typed)
        ((t.order, formatter) :: ranked) ?_ (by rw [hadd]; exact hnext)
      · simpa [ht] using this
      · rw [hadd]
        intro s hs
        rcases mem_insertRegistration hs with rfl | hs
        · exact .inr ⟨rfl, rfl⟩
        · exact hseq s hs
    · have hadd := registrationsOf_addTyped t.name type ⟨t.order, sequence, formatter⟩ typed
      rw [if_neg ht] at hadd
      have := @ih (addTyped t.name ⟨t.order, sequence, formatter⟩ typed) ranked
        (by rw [hadd]; exact hseq) (by rw [hadd]; exact h)
      simpa [ht] using this

theorem lookup_filter_of_ne {V : Type} {key name : String} (h : name ≠ key)
    (entries : List (String × V)) :
    (entries.filter (·.1 != key)).lookup name = entries.lookup name := by
  induction entries with
  | nil => rfl
  | cons entry rest ih =>
    obtain ⟨first, v⟩ := entry
    by_cases hk : first = key
    · have hn : name ≠ first := fun e => h (e.trans hk)
      simp [hk, ih, List.lookup_cons, beq_false_of_ne h]
    · by_cases hn : name = first
      · simp [hk, hn]
      · simp [hk, List.lookup_cons, beq_false_of_ne hn, ih]

/-- A name stands for the formatter that was registered under it last. -/
theorem named?_register (registry : Registry) (formatter : Formatter) (name : String) :
    (registry.register formatter).named? name =
      if formatter.name? = some name then some formatter else registry.named? name := by
  unfold Registry.named? Registry.register
  cases hn : formatter.name? with
  | none => rfl
  | some key =>
    by_cases hk : name = key
    · simp [hk]
    · have := lookup_filter_of_ne hk registry.named
      simp [List.lookup_cons, beq_false_of_ne hk, Ne.symm hk, this]

/-- The tables of the registry hold what was registered and declared so far. -/
structure Tells (registry : Registry) (history : History) : Prop where
  /-- Types are those that were declared. -/
  types : registry.types = history.types
  /-- A name stands for the last formatter that was registered under it. -/
  named : ∀ name, registry.named? name = history.named? name
  /-- The registrations of a type are in order. -/
  typed : ∀ type, (registrationsOf registry.typed type).map Registration.rank =
    byOrder (history.registered.flatMap (Formatter.ranks · type)).reverse
  /-- Registrations are numbered in the order in which they were made. -/
  sequence : ∀ type, ∀ s ∈ registrationsOf registry.typed type, s.sequence < registry.next

theorem tells_empty : empty.Tells [] := by
  refine ⟨rfl, fun name => rfl, fun type => ?_, fun type s hs => absurd hs List.not_mem_nil⟩
  show [] = byOrder []
  rw [byOrder, List.mergeSort_nil]

theorem Tells.formattersFor {registry : Registry} {history : History} (h : registry.Tells history)
    (type : String) : registry.formattersFor type = history.formattersFor type := by
  unfold Registry.formattersFor History.formattersFor History.formattersOf
  rw [h.types]
  refine congrArg (List.flatMap · _) (funext fun name => ?_)
  rw [← h.typed name, List.map_map]
  rfl

/-- Calls that register and declare nothing leave what is told as it is. -/
theorem Tells.congr {registry : Registry} {history history' : History}
    (h : registry.Tells history) (hregistered : history'.registered = history.registered)
    (htypes : history'.types = history.types) : registry.Tells history' := by
  refine ⟨htypes ▸ h.types, fun name => ?_, fun type => ?_, h.sequence⟩
  · rw [History.named?, hregistered]
    exact h.named name
  · rw [hregistered]
    exact h.typed type

theorem Tells.declareType {registry : Registry} {history : History} (h : registry.Tells history)
    (name : String) (super : Option String) (interfaces : List String) :
    (registry.declareType name super interfaces).Tells
      (history ++ [RegistryCall.declareType name super interfaces]) := by
  have hregistered : History.registered
      (history ++ [RegistryCall.declareType name super interfaces]) = history.registered := by
    simp [History.registered]
  refine ⟨?_, fun name => ?_, fun type => ?_, h.sequence⟩
  · rw [History.types, List.foldl_append, Registry.declareType, h.types]
    rfl
  · rw [History.named?, hregistered]
    exact h.named name
  · rw [hregistered]
    exact h.typed type

theorem Tells.register {registry : Registry} {history : History} (h : registry.Tells history)
    (formatter : Formatter) :
    (registry.register formatter).Tells (history ++ [RegistryCall.register formatter]) := by
  have hregistered : History.registered (history ++ [RegistryCall.register formatter]) =
      history.registered ++ [formatter] := by
    simp [History.registered]
  have hseq (type : String) : ∀ s ∈ registrationsOf registry.typed type,
      s.NotAfter ⟨0, registry.next, formatter⟩ :=
    fun s hs => .inl (h.sequence type s hs)
  have htyped (type : String) := @map_rank_addTyped formatter registry.next formatter.types
    registry.typed type _ (hseq type) (h.typed type)
  refine ⟨?_, fun name => ?_, fun type => ?_, fun type s hs => ?_⟩
  · rw [History.types, List.foldl_append]
    exact h.types
  · rw [named?_register, History.named?, hregistered, List.filter_append, List.getLast?_append]
    by_cases hn : formatter.name? = some name
    · simp [hn]
    · rw [if_neg hn, h.named name, History.named?]
      simp [hn]
  · rw [hregistered, List.flatMap_append, List.reverse_append]
    rw [List.flatMap_singleton]
    exact (htyped type).2
  · -- the new registrations have the number that was next, all others a smaller one
    rcases (htyped type).1 s hs with hs | ⟨hs, -⟩
    · exact Nat.lt_succ_of_lt hs
    · exact Nat.lt_succ_of_le (Nat.le_of_eq hs)

end Registry

/-! ### Remembered lists -/

namespace CachedRegistry

/-- Remembered lists are those that would be looked up now. -/
structure Current (r : CachedRegistry) : Prop where
  /-- No change has gone unnoticed. -/
  generation : r.cache.generation = r.generation
  /-- Lists are up to date. -/
  lists : ∀ type formatters, r.cache.get? type = some formatters →
    formatters = r.registry.formattersFor type

theorem current_empty : empty.Current := by
  refine ⟨rfl, fun type formatters h => ?_⟩
  cases h

/-- Behind a change nothing is remembered. -/
theorem Current.change {r : CachedRegistry} (h : r.Current) (registry : Registry) :
    (r.change registry).Current := by
  have hcache : r.cache.invalidate (r.generation + 1) = { generation := r.generation + 1 } := by
    have hlt : r.cache.generation < r.generation + 1 := by
      rw [h.generation]
      exact Nat.lt_succ_self _
    rw [TypeCache.invalidate, if_pos hlt]
  constructor
  · show (r.cache.invalidate (r.generation + 1)).generation = r.generation + 1
    rw [hcache]
  · intro type formatters hf
    change (r.cache.invalidate (r.generation + 1)).get? type = some formatters at hf
    rw [hcache] at hf
    cases hf

/-- A formatter that is for no type changes no list. -/
theorem Current.register {r : CachedRegistry} (h : r.Current) (formatter : Formatter) :
    (r.register formatter).Current := by
  unfold CachedRegistry.register
  by_cases htypes : formatter.types.isEmpty = true
  · rw [if_pos htypes]
    refine ⟨h.generation, fun type formatters hf => ?_⟩
    have htyped : (r.registry.register formatter).typed = r.registry.typed := by
      rw [Registry.register, List.isEmpty_iff.1 htypes]
      rfl
    rw [h.lists type formatters hf, Registry.formattersFor, Registry.formattersFor, htyped]
    rfl
  · rw [if_neg htypes]
    exact h.change _

theorem run_formattersFor (r : CachedRegistry) (type : String) :
    (formattersFor type).run r =
      match r.cache.get? type with
      | some formatters => (formatters, r)
      | none =>
        let formatters := r.registry.formattersFor type
        (formatters, { r with cache := r.cache.keep r.generation type formatters }) := by
  show (formattersFor type) r = _
  unfold formattersFor
  show (match r.cache.get? type with | some _ => _ | none => _ : StateM _ _) r = _
  cases r.cache.get? type <;> rfl

/-- What is answered is what would be looked up, whether it was remembered or not. -/
theorem Current.formattersFor {r : CachedRegistry} (h : r.Current) (type : String) :
    ((formattersFor type).run r).1 = r.registry.formattersFor type ∧
      ((formattersFor type).run r).2.Current ∧
      ((formattersFor type).run r).2.registry = r.registry := by
  rw [run_formattersFor]
  cases hc : r.cache.get? type with
  | some formatters => exact ⟨h.lists type formatters hc, h, rfl⟩
  | none =>
    refine ⟨rfl, ?_, rfl⟩
    -- the list that is kept was looked up in the registry as it is
    have hkeep : r.cache.keep r.generation type (r.registry.formattersFor type) =
        { r.cache with lists := (type, r.registry.formattersFor type) :: r.cache.lists } := by
      rw [TypeCache.keep, if_pos ⟨h.generation, by rw [hc]; rfl⟩]
    refine ⟨?_, fun other formatters hf => ?_⟩
    · show (r.cache.keep _ _ _).generation = r.generation
      rw [hkeep]
      exact h.generation
    · change (r.cache.keep _ _ _).get? other = some formatters at hf
      rw [hkeep, TypeCache.get?, List.lookup_cons] at hf
      by_cases ho : other = type
      · subst ho
        simp only [beq_self_eq_true] at hf
        exact (Option.some.inj hf).symm
      · simp only [beq_false_of_ne ho] at hf
        exact h.lists other formatters hf

theorem run_resolve (r : CachedRegistry) (format : Option String) (type : String) :
    (resolve format type).run r =
      match (format.filter (· ≠ "")).bind r.registry.named? with
      | some formatter => (formatter, r)
      | none =>
        let found := (formattersFor type).run r
        (found.1.head?.getD (.builtin .string), found.2) := by
  have hfind : (find? format type).run r =
      match (format.filter (· ≠ "")).bind r.registry.named? with
      | some formatter => (some formatter, r)
      | none => (((formattersFor type).run r).1.head?, ((formattersFor type).run r).2) := by
    show (match (format.filter (· ≠ "")).bind r.registry.named? with
      | some _ => _ | none => _ : StateM _ _) r = _
    cases (format.filter (· ≠ "")).bind r.registry.named? <;> rfl
  show (((find? format type).run r).1.getD _, ((find? format type).run r).2) = _
  rw [hfind]
  cases (format.filter (· ≠ "")).bind r.registry.named? <;> rfl

/-- The formatter that is found is that of the registry as it is. -/
theorem Current.resolve {r : CachedRegistry} (h : r.Current) (format : Option String)
    (type : String) :
    ((resolve format type).run r).1 = r.registry.resolve format type ∧
      ((resolve format type).run r).2.Current ∧
      ((resolve format type).run r).2.registry = r.registry := by
  obtain ⟨hlist, hcurrent, hregistry⟩ := h.formattersFor type
  rw [run_resolve, Registry.resolve, Registry.find?]
  cases hn : (format.filter (· ≠ "")).bind r.registry.named? with
  | some formatter => exact ⟨rfl, h, rfl⟩
  | none =>
    refine ⟨?_, hcurrent, hregistry⟩
    show (((CachedRegistry.formattersFor type).run r).1.head?).getD _ = _
    rw [hlist]
    rfl

/-! ### Sequences of calls -/

/-- A registry that answers from its history. -/
structure Follows (r : CachedRegistry) (history : History) : Prop where
  /-- Nothing stale is remembered. -/
  current : r.Current
  /-- The tables hold what was registered. -/
  tells : r.registry.Tells history

/-- One call, whatever it is, keeps the registry in step with its history. -/
theorem Follows.perform {r : CachedRegistry} {history : History} (h : r.Follows history)
    (call : RegistryCall) : (r.perform call).Follows (history ++ [call]) := by
  cases call with
  | register formatter =>
    refine ⟨h.current.register formatter, ?_⟩
    have hregistry : (r.register formatter).registry = r.registry.register formatter := by
      unfold CachedRegistry.register
      split <;> rfl
    show (r.register formatter).registry.Tells _
    rw [hregistry]
    exact h.tells.register formatter
  | declareType name super interfaces =>
    exact ⟨h.current.change _, h.tells.declareType name super interfaces⟩
  | formattersFor type =>
    obtain ⟨-, hcurrent, hregistry⟩ := h.current.formattersFor type
    refine ⟨hcurrent, ?_⟩
    show ((CachedRegistry.formattersFor type).run r).2.registry.Tells _
    rw [hregistry]
    exact h.tells.congr (by simp [History.registered]) (by simp [History.types])
  | resolve format type =>
    obtain ⟨-, hcurrent, hregistry⟩ := h.current.resolve format type
    refine ⟨hcurrent, ?_⟩
    show ((CachedRegistry.resolve format type).run r).2.registry.Tells _
    rw [hregistry]
    exact h.tells.congr (by simp [History.registered]) (by simp [History.types])

/-- So does a sequence of calls. -/
theorem Follows.foldl_perform {r : CachedRegistry} {history : History} (h : r.Follows history)
    (calls : List RegistryCall) : (calls.foldl CachedRegistry.perform r).Follows (history ++ calls) := by
  induction calls generalizing r history with
  | nil =>
    rw [List.append_nil]
    exact h
  | cons call calls ih =>
    have := ih (h.perform call)
    rwa [List.append_assoc, List.singleton_append] at this

theorem follows_after (calls : List RegistryCall) : (after calls).Follows calls := by
  have hempty : empty.Follows [] := ⟨current_empty, Registry.tells_empty⟩
  exact hempty.foldl_perform calls

/-- Behind any sequence of calls on a new registry, the formatters of a type and the formatter of a
    format and a type are those that the calls so far ask for. -/
theorem formattersFor_resolve_after (calls : History) :
    (∀ type, ((formattersFor type).run (after calls)).1 = calls.formattersFor type) ∧
    ∀ format type, ((resolve format type).run (after calls)).1 = calls.resolve format type := by
  obtain ⟨hcurrent, htells⟩ := follows_after calls
  constructor
  · intro type
    rw [(hcurrent.formattersFor type).1, htells.formattersFor]
  · intro format type
    have hnamed : (after calls).registry.named? = calls.named? := funext htells.named
    rw [(hcurrent.resolve format type).1, Registry.resolve, Registry.find?, History.resolve,
      htells.formattersFor, hnamed]

end CachedRegistry

end Phrasebook
