import Mathlib.Algebra.Order.BigOperators.Group.List
import Mathlib.Algebra.Order.Ring.Nat
import Mathlib.Data.List.Nodup
import Phrasebook.Proofs.Formatter.Walk

/-! # Walks end, and list no type twice

    A walk is taken apart into steps (`WalkStep`): an interface that waits is passed over or
    visited, and when none waits, the super type comes next. Whatever is declared, in cycles or not,

    * every step leaves fewer steps to take (`remaining_lt_of_step`), so no walk takes more than
      one step for each declared type and interface, and one more (`length_steps_le`);
    * every step keeps that no type is listed twice, and that the first one reaches all of them
      (`Visited.step`);
    * wherever the steps have come, they lead to what `walk` lists (`exists_last`). -/

namespace Phrasebook

namespace TypeGraph

open Relation (ReflTransGen)

variable {g : TypeGraph} {seen : List String} {name : String}

/-! ### Steps -/

/-- Where a walk stands. -/
structure WalkState where
  /-- The types that were visited, in order. -/
  seen : List String
  /-- The interfaces that wait. -/
  stack : List String
  /-- The type whose super type comes next. -/
  current : String

/-- What a walk lists that stands there: the root is always among it. -/
def WalkState.listed (s : WalkState) : List String :=
  if object ∈ s.seen then s.seen else s.seen ++ [object]

/-- Where a walk stands when it comes to a type. -/
def arrive (g : TypeGraph) (seen : List String) (name : String) : WalkState :=
  ⟨seen ++ [name], g.interfaces name, name⟩

/-- Where a walk starts. -/
def start (g : TypeGraph) (name : String) : WalkState := g.arrive [] name

/-- One step of a walk. -/
inductive WalkStep (g : TypeGraph) : WalkState → WalkState → Prop
  /-- An interface that was seen is passed over. -/
  | pass {seen name stack current} (hs : name ∈ seen) :
      WalkStep g ⟨seen, name :: stack, current⟩ ⟨seen, stack, current⟩
  /-- Another one is visited, and its interfaces come in front of those that wait. -/
  | visit {seen name stack current} (hs : name ∉ seen) :
      WalkStep g ⟨seen, name :: stack, current⟩
        ⟨seen ++ [name], g.interfaces name ++ stack, current⟩
  /-- When no interface waits, the walk comes to the super type, unless it was seen. -/
  | climb {seen current super} (hsuper : g.super? current = some super) (hs : super ∉ seen) :
      WalkStep g ⟨seen, [], current⟩ (g.arrive seen super)

/-- A walk has no choice. -/
theorem WalkStep.eq_of_step {s t t' : WalkState} (h : g.WalkStep s t) (h' : g.WalkStep s t') :
    t = t' := by
  cases h with
  | pass hs =>
    cases h' with
    | pass _ => rfl
    | visit hs' => exact absurd hs hs'
  | visit hs =>
    cases h' with
    | pass hs' => exact absurd hs' hs
    | visit _ => rfl
  | climb hsuper hs =>
    cases h' with
    | climb hsuper' hs' =>
      obtain rfl := Option.some.inj (hsuper.symm.trans hsuper')
      rfl

/-! ### How many steps are left -/

/-- A number that counts until a type is seen. -/
def untilSeen (seen : List String) (type : String) (n : Nat) : Nat := if type ∈ seen then 0 else n

theorem untilSeen_append_le (seen : List String) (name type : String) (n : Nat) :
    untilSeen (seen ++ [name]) type n ≤ untilSeen seen type n := by
  unfold untilSeen
  by_cases h : type ∈ seen
  · rw [if_pos h, if_pos (List.mem_append_left _ h)]
  · rw [if_neg h]
    split <;> omega

/-- Steps that a declared type causes: one to it, and one to each of its interfaces. -/
def cost (node : TypeNode) : Nat := node.interfaces.length + 1

/-- Steps that the declared types may still cause, each until it is seen. -/
def load (g : TypeGraph) (seen : List String) : Nat :=
  (g.nodes.map fun entry => untilSeen seen entry.1 (cost entry.2)).sum

/-- Number of declared types and interfaces. -/
def size (g : TypeGraph) : Nat := (g.nodes.map fun entry => cost entry.2).sum

theorem load_nil (g : TypeGraph) : g.load [] = g.size := by
  unfold load size
  congr 1

/-- A type that is visited puts its interfaces on the stack, and causes no more steps. -/
theorem load_append_le (hs : name ∉ seen) :
    g.load (seen ++ [name]) + (g.interfaces name).length + (if g.contains name then 1 else 0) ≤
      g.load seen := by
  have hle (entries : List (String × TypeNode)) :
      (entries.map fun entry => untilSeen (seen ++ [name]) entry.1 (cost entry.2)).sum ≤
        (entries.map fun entry => untilSeen seen entry.1 (cost entry.2)).sum :=
    List.sum_le_sum fun entry _ => untilSeen_append_le seen name entry.1 (cost entry.2)
  cases hn : g.node? name with
  | none =>
    -- a type that is not declared has no interfaces
    have hall := hle g.nodes
    simp only [load, contains, interfaces, hn]
    simpa using hall
  | some node =>
    -- the entry of the type stops counting, and no other entry counts for more than before
    obtain ⟨front, back, hnodes, -⟩ := List.lookup_eq_some_iff.1 hn
    have hfront := hle front
    have hback := hle back
    have hnew : untilSeen (seen ++ [name]) name (cost node) = 0 :=
      if_pos (List.mem_append_right seen (List.mem_singleton_self name))
    have hold : untilSeen seen name (cost node) = node.interfaces.length + 1 := if_neg hs
    have hcontains : g.contains name = true := by simp [contains, hn]
    have hinterfaces : g.interfaces name = node.interfaces := by simp [interfaces, hn]
    rw [hcontains, hinterfaces, if_pos rfl, load, load, hnodes]
    simp only [List.map_append, List.map_cons, List.sum_append, List.sum_cons, hnew, hold]
    omega

/-- Steps that are left at most: those to the types on the stack, those that the declared types may
    still cause, one from a declared type to one that is not, and one to the root. -/
def remaining (g : TypeGraph) (s : WalkState) : Nat :=
  s.stack.length + g.load s.seen + (if g.contains s.current then 1 else 0) +
    untilSeen s.seen object 1

theorem remaining_arrive_le (hs : name ∉ seen) :
    g.remaining (g.arrive seen name) ≤ g.load seen + untilSeen (seen ++ [name]) object 1 := by
  have hload := load_append_le (g := g) hs
  unfold remaining arrive
  dsimp only
  omega

theorem super?_of_not_contains (h : ¬ g.contains name = true) : g.super? name = some object := by
  have hn : g.node? name = none := by
    rwa [contains, Bool.not_eq_true, Option.isSome_eq_false_iff, Option.isNone_iff_eq_none] at h
  rw [super?, hn]

theorem remaining_lt_of_step {s t : WalkState} (h : g.WalkStep s t) :
    g.remaining t < g.remaining s := by
  cases h with
  | pass hs =>
    unfold remaining
    dsimp only
    rw [List.length_cons]
    omega
  | @visit seen name stack current hs =>
    -- the interfaces that come onto the stack were counted in the load
    have hload := load_append_le (g := g) hs
    have hroot := untilSeen_append_le seen name object 1
    unfold remaining
    dsimp only
    rw [List.length_append, List.length_cons]
    omega
  | @climb seen current super hsuper hs =>
    have harrive := remaining_arrive_le (g := g) hs
    have hroot := untilSeen_append_le seen super object 1
    have hstand : g.remaining ⟨seen, [], current⟩ =
        g.load seen + (if g.contains current then 1 else 0) + untilSeen seen object 1 := by
      unfold remaining
      dsimp only
      rw [List.length_nil, Nat.zero_add]
    by_cases hc : g.contains current = true
    · rw [if_pos hc] at hstand
      omega
    · -- the super type of a type that is not declared is the root, which is seen now
      obtain rfl := Option.some.inj ((super?_of_not_contains hc).symm.trans hsuper)
      have hbefore : untilSeen seen object 1 = 1 := if_neg hs
      have hbehind : untilSeen (seen ++ [object]) object 1 = 0 :=
        if_pos (List.mem_append_right seen (List.mem_singleton_self object))
      omega

/-- No sequence of steps is longer than what is left where it starts. -/
theorem length_steps_le {s : WalkState} {states : List WalkState}
    (h : (s :: states).IsChain g.WalkStep) : states.length ≤ g.remaining s := by
  induction states generalizing s with
  | nil => exact Nat.zero_le _
  | cons t states ih =>
    obtain ⟨hstep, hrest⟩ := List.isChain_cons_cons.1 h
    have hlt := remaining_lt_of_step hstep
    have hle := ih hrest
    rw [List.length_cons]
    omega

theorem remaining_start_le (g : TypeGraph) (name : String) :
    g.remaining (g.start name) ≤ g.size + 1 := by
  have harrive := remaining_arrive_le (g := g) (List.not_mem_nil (a := name))
  have hroot := untilSeen_append_le [] name object 1
  have hone : untilSeen [] object 1 = 1 := rfl
  rw [load_nil] at harrive
  unfold start
  omega

/-! ### What every step keeps -/

/-- Super types and interfaces lead from a type to another one. -/
def Reaches (g : TypeGraph) : String → String → Prop :=
  ReflTransGen fun type other => other ∈ g.interfaces type ∨ g.super? type = some other

theorem Reaches.interface {type other : String} (h : g.Reaches name type)
    (hi : other ∈ g.interfaces type) : g.Reaches name other :=
  ReflTransGen.tail h (.inl hi)

/-- A list of types begins with a type, repeats none, and has only types that the first one
    reaches. -/
structure Lists (g : TypeGraph) (name : String) (types : List String) : Prop where
  /-- The type comes first. -/
  first : [name] <+: types
  /-- No type comes twice. -/
  nodup : types.Nodup
  /-- The type reaches all of them. -/
  reached : ∀ other ∈ types, g.Reaches name other

theorem Lists.concat {types : List String} {other : String} (h : g.Lists name types)
    (fresh : other ∉ types) (hreached : g.Reaches name other) :
    g.Lists name (types ++ [other]) where
  first := h.first.trans (List.prefix_append types [other])
  nodup := List.concat_eq_append ▸ h.nodup.concat fresh
  reached := List.forall_mem_append.2 ⟨h.reached, List.forall_mem_singleton.2 hreached⟩

/-- What holds wherever a walk from a type stands. -/
structure Visited (g : TypeGraph) (name : String) (s : WalkState) : Prop where
  /-- What was seen. -/
  seen : g.Lists name s.seen
  /-- The type reaches the interfaces that wait. -/
  stack : ∀ other ∈ s.stack, g.Reaches name other
  /-- The type reaches the one whose super type comes next. -/
  current : g.Reaches name s.current

theorem visited_start (g : TypeGraph) (name : String) : g.Visited name (g.start name) where
  seen := ⟨List.prefix_rfl, List.nodup_singleton name, List.forall_mem_singleton.2 .refl⟩
  stack _ hi := Reaches.interface .refl hi
  current := .refl

theorem Visited.step {s t : WalkState} (h : g.Visited name s) (hstep : g.WalkStep s t) :
    g.Visited name t := by
  cases hstep with
  | pass hs =>
    exact ⟨h.seen, (List.forall_mem_cons.1 h.stack).2, h.current⟩
  | @visit seen type stack current hs =>
    obtain ⟨htype, hstack⟩ := List.forall_mem_cons.1 h.stack
    have hinterfaces : ∀ other ∈ g.interfaces type, g.Reaches name other := fun _ hi =>
      htype.interface hi
    exact ⟨h.seen.concat hs htype, List.forall_mem_append.2 ⟨hinterfaces, hstack⟩, h.current⟩
  | @climb seen current super hsuper hs =>
    have hreached : g.Reaches name super := ReflTransGen.tail h.current (.inr hsuper)
    exact ⟨h.seen.concat hs hreached, fun _ hi => hreached.interface hi, hreached⟩

theorem visited_of_steps {s : WalkState} (h : ReflTransGen g.WalkStep (g.start name) s) :
    g.Visited name s := by
  induction h with
  | refl => exact g.visited_start name
  | tail _ hstep ih => exact ih.step hstep

/-! ### Where the steps lead -/

theorem steps_visit (g : TypeGraph) (seen stack : List String) (current : String) :
    ReflTransGen g.WalkStep ⟨seen, stack, current⟩ ⟨g.visit seen stack, [], current⟩ := by
  induction seen, stack using visit.induct g with
  | case1 seen =>
    rw [visit]
  | case2 seen name stack hs ih =>
    rw [visit, if_pos hs]
    exact ReflTransGen.head (.pass hs) ih
  | case3 seen name stack hs ih =>
    rw [visit, if_neg hs]
    exact ReflTransGen.head (.visit hs) ih

/-- The walk can not go on. -/
def Ended (g : TypeGraph) (s : WalkState) : Prop := ∀ t, ¬ g.WalkStep s t

/-- The steps from a type end where the climb from it ends. -/
theorem steps_ascend (closed : g.Closed seen) (fresh : name ∉ seen) :
    ∃ last, ReflTransGen g.WalkStep (g.arrive seen name) ⟨g.ascend seen name fresh, [], last⟩ ∧
      g.Ended ⟨g.ascend seen name fresh, [], last⟩ := by
  refine ascend_induction (motive := fun seen name result =>
    ∃ last, ReflTransGen g.WalkStep (g.arrive seen name) ⟨result, [], last⟩ ∧
      g.Ended ⟨result, [], last⟩) ?_ ?_ closed fresh
  · intro seen name _ _ hstop
    refine ⟨name, steps_visit g _ _ name, ?_⟩
    intro t hstep
    cases hstep with
    | climb hsuper hs => exact hs (hstop _ hsuper)
  · intro seen name super result _ _ hsuper hnew ih
    obtain ⟨last, hsteps, hended⟩ := ih
    have hvisit : ReflTransGen g.WalkStep (g.arrive seen name) ⟨g.visitType seen name, [], name⟩ :=
      steps_visit g _ _ name
    exact ⟨last, hvisit.trans (ReflTransGen.head (.climb hsuper hnew) hsteps), hended⟩

/-- Wherever the steps have come, they go on to the end, and what is listed there is the walk. -/
theorem exists_last (g : TypeGraph) (name : String) :
    ∃ last, g.Ended last ∧ g.walk name = last.listed ∧
      ∀ s, ReflTransGen g.WalkStep (g.start name) s → ReflTransGen g.WalkStep s last := by
  obtain ⟨last, hlast, hended⟩ := steps_ascend g.closed_nil (List.not_mem_nil (a := name))
  refine ⟨_, hended, rfl, ?_⟩
  intro s hsteps
  have hunique : Relator.RightUnique g.WalkStep := fun _ _ _ h h' => h.eq_of_step h'
  rcases ReflTransGen.total_of_right_unique hunique hsteps hlast with hs | hs
  · exact hs
  · -- nothing comes behind the end, so the steps have come there
    rcases ReflTransGen.cases_head hs with heq | ⟨t, hstep, -⟩
    · rw [heq]
    · exact absurd hstep (hended t)

/-- A walk lists what is listed where it can not go on. -/
theorem walk_eq_of_steps {s : WalkState} (h : ReflTransGen g.WalkStep (g.start name) s)
    (hended : g.Ended s) : g.walk name = s.listed := by
  obtain ⟨last, -, hwalk, hsteps⟩ := g.exists_last name
  rcases ReflTransGen.cases_head (hsteps s h) with rfl | ⟨t, hstep, -⟩
  · exact hwalk
  · exact absurd hstep (hended t)

/-- A walk takes at most one step for each declared type and interface, and one more, whatever
    cycles there are. It lists its first type first, the root, and no type twice, and besides the
    root only types that super types and interfaces lead to from the first one. -/
theorem walk_ends (g : TypeGraph) (name : String) :
    (∀ states, (g.start name :: states).IsChain g.WalkStep → states.length ≤ g.size + 1) ∧
    (∃ last, g.Ended last ∧ g.walk name = last.listed ∧
      ∀ s, ReflTransGen g.WalkStep (g.start name) s → ReflTransGen g.WalkStep s last) ∧
    (g.walk name).head? = some name ∧ object ∈ g.walk name ∧ (g.walk name).Nodup ∧
    ∀ other ∈ g.walk name, other = object ∨ g.Reaches name other := by
  obtain ⟨last, hended, hwalk, hsteps⟩ := g.exists_last name
  have hlists := (visited_of_steps (hsteps _ .refl)).seen
  obtain ⟨rest, hrest⟩ := hlists.first
  refine ⟨?_, ⟨last, hended, hwalk, hsteps⟩, ?_⟩
  · intro states h
    exact (length_steps_le h).trans (g.remaining_start_le name)
  rw [hwalk, WalkState.listed]
  by_cases hroot : object ∈ last.seen
  · rw [if_pos hroot]
    refine ⟨?_, hroot, hlists.nodup, fun other ho => .inr (hlists.reached other ho)⟩
    rw [← hrest]
    rfl
  · -- the root stands behind what was seen
    rw [if_neg hroot]
    refine ⟨?_, List.mem_append_right _ (List.mem_singleton_self object),
      List.concat_eq_append ▸ hlists.nodup.concat hroot, ?_⟩
    · rw [← hrest]
      rfl
    · intro other ho
      rcases List.mem_append.1 ho with ho | ho
      · exact .inr (hlists.reached other ho)
      · exact .inl (List.mem_singleton.1 ho)

/-- Two types that are interfaces of each other, below one that is not declared. -/
theorem walk_ends_cycle :
    let g := (rootOnly.declare "a" (some "c") ["b"]).declare "b" none ["a"]
    let states : List WalkState := [⟨["a", "b"], ["a"], "a"⟩, ⟨["a", "b"], [], "a"⟩,
      ⟨["a", "b", "c"], [], "c"⟩, ⟨["a", "b", "c", object], [], object⟩]
    (g.start "a" :: states).IsChain g.WalkStep ∧ states.length ≤ g.size + 1 ∧
      (∃ last, g.Ended last ∧ g.walk "a" = last.listed ∧
        ReflTransGen g.WalkStep ⟨["a", "b"], ["a"], "a"⟩ last) ∧
      (g.walk "a").head? = some "a" ∧ object ∈ g.walk "a" ∧ (g.walk "a").Nodup ∧
      "c" ∈ g.walk "a" ∧ ("c" = object ∨ g.Reaches "a" "c") := by
  intro g states
  have hvisit : g.WalkStep (g.start "a") ⟨["a", "b"], ["a"], "a"⟩ := .visit (by decide)
  have hpass : g.WalkStep ⟨["a", "b"], ["a"], "a"⟩ ⟨["a", "b"], [], "a"⟩ := .pass (by decide)
  have hclimb : g.WalkStep ⟨["a", "b"], [], "a"⟩ ⟨["a", "b", "c"], [], "c"⟩ :=
    .climb (by decide) (by decide)
  have hroot : g.WalkStep ⟨["a", "b", "c"], [], "c"⟩ ⟨["a", "b", "c", object], [], object⟩ :=
    .climb (by decide) (by decide)
  have hchain : (g.start "a" :: states).IsChain g.WalkStep := by
    simp only [states, List.isChain_cons_cons]
    exact ⟨hvisit, hpass, hclimb, hroot, List.IsChain.singleton _⟩
  have hmem : "c" ∈ g.walk "a" := by
    have hsteps : ReflTransGen g.WalkStep (g.start "a") ⟨["a", "b", "c", object], [], object⟩ :=
      (((ReflTransGen.single hvisit).tail hpass).tail hclimb).tail hroot
    have hwalk : g.walk "a" = ["a", "b", "c", object] := by
      apply walk_eq_of_steps hsteps
      intro t hstep
      cases hstep with
      | climb hsuper => cases hsuper
    rw [hwalk]
    decide
  obtain ⟨hlength, ⟨last, hended, hwalk, hsteps⟩, hfirst, hobject, hnodup, hreached⟩ :=
    walk_ends g "a"
  exact ⟨hchain, hlength states hchain, ⟨last, hended, hwalk, hsteps _ (.single hvisit)⟩, hfirst,
    hobject, hnodup, hmem, hreached "c" hmem⟩

end TypeGraph

end Phrasebook
