import Mathlib.Data.List.Chain
import Mathlib.Logic.Relation
import Phrasebook.Formatter.TypeGraph

/-! # Which types a walk visits

    A walk climbs from a type to its super type, and so on, and visits the interfaces of each type
    that it comes to, theirs included (`Implements`). It ends at the first super type that it has
    seen. So it climbs up to the first type that is an interface of a type below (`Ascends`), and
    visits what it climbs and what these types implement, and the root (`mem_walk_iff`).

    A super type that is an interface of a type below is visited as an interface only: nothing
    climbs on from it. -/

namespace Phrasebook

namespace TypeGraph

open Relation (ReflTransGen)

variable {g : TypeGraph} {seen stack : List String} {name other : String}

/-! ### Interfaces -/

/-- A type is another one, or has it as an interface, directly or by way of its interfaces. -/
def Implements (g : TypeGraph) : String → String → Prop :=
  ReflTransGen fun type interface => interface ∈ g.interfaces type

theorem implements_self (g : TypeGraph) (name : String) : g.Implements name name :=
  ReflTransGen.refl

theorem implements_iff :
    g.Implements name other ↔
      other = name ∨ ∃ interface ∈ g.interfaces name, g.Implements interface other :=
  ReflTransGen.cases_head_iff.trans (or_congr_left eq_comm)

/-- The interfaces of seen types are seen too, or wait on the stack. -/
def Pending (g : TypeGraph) (seen stack : List String) : Prop :=
  ∀ type ∈ seen, ∀ interface ∈ g.interfaces type, interface ∈ seen ∨ interface ∈ stack

/-- Interfaces lead from seen types to seen types, or by way of the stack. -/
theorem Pending.mem_or (h : g.Pending seen stack) (hseen : name ∈ seen)
    (himpl : g.Implements name other) :
    other ∈ seen ∨ ∃ type ∈ stack, g.Implements type other := by
  induction himpl using ReflTransGen.head_induction_on with
  | refl => exact .inl hseen
  | @head type interface hinterface rest ih =>
    rcases h type hseen interface hinterface with hmem | hmem
    · exact ih hmem
    · exact .inr ⟨interface, hmem, rest⟩

/-- A visit adds the types of the stack and their interfaces to what is seen. -/
theorem mem_visit_iff (h : g.Pending seen stack) :
    other ∈ g.visit seen stack ↔ other ∈ seen ∨ ∃ type ∈ stack, g.Implements type other := by
  induction seen, stack using visit.induct g with
  | case1 seen =>
    rw [visit]
    simp
  | case2 seen name stack hs ih =>
    have hrest : g.Pending seen stack := by
      intro type ht interface hi
      rcases h type ht interface hi with hmem | hmem
      · exact .inl hmem
      · rcases List.mem_cons.1 hmem with rfl | hmem
        · exact .inl hs
        · exact .inr hmem
    -- what the type implements was seen with it, or comes further down the stack
    have hname : g.Implements name other → other ∈ seen ∨ ∃ type ∈ stack, g.Implements type other :=
      hrest.mem_or hs
    rw [visit, if_pos hs, ih hrest, List.exists_mem_cons_iff]
    constructor
    · intro hmem
      rcases hmem with hmem | hmem
      · exact .inl hmem
      · exact .inr (.inr hmem)
    · intro hmem
      rcases hmem with hmem | himpl | hmem
      · exact .inl hmem
      · exact hname himpl
      · exact .inr hmem
  | case3 seen name stack hs ih =>
    have hrest : g.Pending (seen ++ [name]) (g.interfaces name ++ stack) := by
      intro type ht interface hi
      rcases List.mem_append.1 ht with ht | ht
      · rcases h type ht interface hi with hmem | hmem
        · exact .inl (List.mem_append_left _ hmem)
        · rcases List.mem_cons.1 hmem with rfl | hmem
          · exact .inl (List.mem_append_right _ (List.mem_singleton_self _))
          · exact .inr (List.mem_append_right _ hmem)
      · obtain rfl := List.mem_singleton.1 ht
        exact .inr (List.mem_append_left _ hi)
    rw [visit, if_neg hs, ih hrest, List.exists_mem_cons_iff, @implements_iff g name]
    simp only [List.mem_append, List.mem_singleton, or_and_right, exists_or, or_assoc]

theorem isPrefix_visit (g : TypeGraph) (seen stack : List String) :
    seen <+: g.visit seen stack := by
  induction seen, stack using visit.induct g with
  | case1 seen =>
    unfold visit
    exact List.prefix_rfl
  | case2 seen name stack hs ih =>
    rw [visit, if_pos hs]
    exact ih
  | case3 seen name stack hs ih =>
    rw [visit, if_neg hs]
    exact (List.prefix_append seen [name]).trans ih

/-- Types without interfaces that were not seen are visited in order. -/
theorem visit_of_flat (hflat : ∀ type ∈ stack, g.interfaces type = [])
    (hnodup : (seen ++ stack).Nodup) : g.visit seen stack = seen ++ stack := by
  induction stack generalizing seen with
  | nil => rw [visit, List.append_nil]
  | cons name stack ih =>
    obtain ⟨hname, hrest⟩ := List.forall_mem_cons.1 hflat
    have hnew : name ∉ seen := by
      intro hs
      exact (List.nodup_append.1 hnodup).2.2 name hs name List.mem_cons_self rfl
    rw [List.append_cons] at hnodup ⊢
    rw [visit, if_neg hnew, hname, List.nil_append, ih hrest hnodup]

/-! ### Super types -/

/-- The interfaces of seen types are seen. -/
def Closed (g : TypeGraph) (seen : List String) : Prop :=
  ∀ type ∈ seen, ∀ interface ∈ g.interfaces type, interface ∈ seen

/-- What is seen behind a type that is visited with its interfaces. -/
def visitType (g : TypeGraph) (seen : List String) (name : String) : List String :=
  g.visit (seen ++ [name]) (g.interfaces name)

theorem mem_visitType_iff (h : g.Closed seen) :
    other ∈ g.visitType seen name ↔ other ∈ seen ∨ g.Implements name other := by
  have hpending : g.Pending (seen ++ [name]) (g.interfaces name) := by
    intro type ht interface hi
    rcases List.mem_append.1 ht with ht | ht
    · exact .inl (List.mem_append_left _ (h type ht interface hi))
    · obtain rfl := List.mem_singleton.1 ht
      exact .inr hi
  rw [visitType, mem_visit_iff hpending, @implements_iff g name, List.mem_append,
    List.mem_singleton, or_assoc]

theorem Closed.visitType (h : g.Closed seen) (name : String) :
    g.Closed (g.visitType seen name) := by
  intro type ht interface hi
  rw [mem_visitType_iff h] at ht ⊢
  rcases ht with ht | ht
  · exact .inl (h type ht interface hi)
  · exact .inr (ReflTransGen.tail ht hi)

/-- A type is visited with its interfaces behind it, if these have none. -/
theorem visitType_of_flat (hflat : ∀ type ∈ g.interfaces name, g.interfaces type = [])
    (hnodup : (seen ++ name :: g.interfaces name).Nodup) :
    g.visitType seen name = seen ++ name :: g.interfaces name := by
  rw [List.append_cons] at hnodup ⊢
  exact visit_of_flat hflat hnodup

theorem ascend_of_super?_mem {fresh : name ∉ seen}
    (h : ∀ super, g.super? name = some super → super ∈ g.visitType seen name) :
    g.ascend seen name fresh = g.visitType seen name := by
  rw [ascend]
  split
  · rfl
  · rename_i super hs
    exact dif_pos (h super hs)

theorem ascend_of_super? {fresh : name ∉ seen} {super : String} (h : g.super? name = some super)
    (hs : super ∉ g.visitType seen name) :
    g.ascend seen name fresh = g.ascend (g.visitType seen name) super hs := by
  rw [ascend]
  split
  · rename_i hnone
    cases h.symm.trans hnone
  · rename_i other ho
    obtain rfl := Option.some.inj (h.symm.trans ho)
    exact dif_neg hs

/-- What holds of the type where the climb ends, and of a type if it holds of the super type that is
    climbed next, holds of every climb. -/
theorem ascend_induction {motive : List String → String → List String → Prop}
    (stop : ∀ seen name, g.Closed seen → name ∉ seen →
      (∀ super, g.super? name = some super → super ∈ g.visitType seen name) →
      motive seen name (g.visitType seen name))
    (climb : ∀ seen name super result, g.Closed seen → name ∉ seen →
      g.super? name = some super → super ∉ g.visitType seen name →
      motive (g.visitType seen name) super result → motive seen name result)
    (closed : g.Closed seen) (fresh : name ∉ seen) :
    motive seen name (g.ascend seen name fresh) := by
  induction seen, name, fresh using ascend.induct g with
  | case1 seen name fresh hnone =>
    have hmem : ∀ super, g.super? name = some super → super ∈ g.visitType seen name := by
      intro super hs
      cases hnone.symm.trans hs
    rw [ascend_of_super?_mem hmem]
    exact stop seen name closed fresh hmem
  | case2 seen name fresh seen' super hsuper hs =>
    have hmem : ∀ other, g.super? name = some other → other ∈ g.visitType seen name := by
      intro other ho
      obtain rfl := Option.some.inj (hsuper.symm.trans ho)
      exact hs
    rw [ascend_of_super?_mem hmem]
    exact stop seen name closed fresh hmem
  | case3 seen name fresh seen' super hsuper hs ih =>
    rw [ascend_of_super? hsuper hs]
    exact climb seen name super _ closed fresh hsuper hs (ih (closed.visitType name))

/-- A climb from one type to the next super type, none of which is a type below or an interface of
    one. -/
structure Ascends (g : TypeGraph) (path : List String) : Prop where
  /-- Each type is the super type of the one in front of it. -/
  chain : path.IsChain fun type super => g.super? type = some super
  /-- What a type implements is not climbed behind it. -/
  fresh : path.Pairwise fun below above => ¬ g.Implements below above

theorem ascends_singleton (g : TypeGraph) (name : String) : g.Ascends [name] :=
  ⟨List.IsChain.singleton name, List.pairwise_singleton _ name⟩

/-- A climb among types that were not seen below. -/
def AscendsFrom (g : TypeGraph) (seen path : List String) : Prop :=
  g.Ascends path ∧ ∀ type ∈ path, type ∉ seen

theorem ascendsFrom_singleton (fresh : name ∉ seen) : g.AscendsFrom seen [name] :=
  ⟨g.ascends_singleton name, List.forall_mem_singleton.2 fresh⟩

theorem ascendsFrom_cons_iff {super : String} {path : List String} (closed : g.Closed seen) :
    g.AscendsFrom seen (name :: super :: path) ↔
      name ∉ seen ∧ g.super? name = some super ∧
        g.AscendsFrom (g.visitType seen name) (super :: path) := by
  have hfresh : ∀ type, type ∉ g.visitType seen name ↔ type ∉ seen ∧ ¬ g.Implements name type := by
    intro type
    rw [mem_visitType_iff closed, not_or]
  constructor
  · intro h
    obtain ⟨⟨hchain, hpairwise⟩, hseen⟩ := h
    obtain ⟨hname, hrest⟩ := List.forall_mem_cons.1 hseen
    obtain ⟨hsuper, hchain⟩ := List.isChain_cons_cons.1 hchain
    obtain ⟨himpl, hpairwise⟩ := List.pairwise_cons.1 hpairwise
    refine ⟨hname, hsuper, ⟨hchain, hpairwise⟩, ?_⟩
    intro type ht
    exact (hfresh type).2 ⟨hrest type ht, himpl type ht⟩
  · intro h
    obtain ⟨hname, hsuper, ⟨hchain, hpairwise⟩, hseen⟩ := h
    have himpl : ∀ type ∈ super :: path, ¬ g.Implements name type := fun type ht =>
      ((hfresh type).1 (hseen type ht)).2
    refine ⟨⟨List.isChain_cons_cons.2 ⟨hsuper, hchain⟩, List.pairwise_cons.2 ⟨himpl, hpairwise⟩⟩,
      List.forall_mem_cons.2 ⟨hname, ?_⟩⟩
    intro type ht
    exact ((hfresh type).1 (hseen type ht)).1

/-- A climb adds to what is seen the types that it comes to, and what they implement. -/
theorem mem_ascend_iff (closed : g.Closed seen) (fresh : name ∉ seen) :
    other ∈ g.ascend seen name fresh ↔ other ∈ seen ∨
      ∃ path, g.AscendsFrom seen (name :: path) ∧
        ∃ type ∈ name :: path, g.Implements type other := by
  refine ascend_induction (motive := fun seen name result => other ∈ result ↔ other ∈ seen ∨
    ∃ path, g.AscendsFrom seen (name :: path) ∧ ∃ type ∈ name :: path, g.Implements type other)
    ?_ ?_ closed fresh
  · intro seen name closed fresh hstop
    rw [mem_visitType_iff closed]
    constructor
    · intro h
      rcases h with hmem | himpl
      · exact .inl hmem
      · exact .inr ⟨[], ascendsFrom_singleton fresh, name, List.mem_singleton_self name, himpl⟩
    · intro h
      rcases h with hmem | ⟨path, hpath, type, ht, himpl⟩
      · exact .inl hmem
      · cases path with
        | nil =>
          obtain rfl := List.mem_singleton.1 ht
          exact .inr himpl
        | cons super path =>
          -- the super type was seen, so nothing is climbed behind the type
          obtain ⟨-, hsuper, -, hnew⟩ := (ascendsFrom_cons_iff closed).1 hpath
          exact absurd (hstop super hsuper) (hnew super List.mem_cons_self)
  · intro seen name super result closed fresh hsuper hnew ih
    rw [ih, mem_visitType_iff closed, or_assoc]
    refine or_congr_right ?_
    constructor
    · intro h
      rcases h with himpl | ⟨path, hpath, type, ht, himpl⟩
      · exact ⟨[], ascendsFrom_singleton fresh, name, List.mem_singleton_self name, himpl⟩
      · exact ⟨super :: path, (ascendsFrom_cons_iff closed).2 ⟨fresh, hsuper, hpath⟩, type,
          List.mem_cons_of_mem name ht, himpl⟩
    · intro h
      obtain ⟨path, hpath, type, ht, himpl⟩ := h
      rcases List.mem_cons.1 ht with rfl | ht
      · exact .inl himpl
      · cases path with
        | nil => cases ht
        | cons other path =>
          obtain ⟨-, hother, hrest⟩ := (ascendsFrom_cons_iff closed).1 hpath
          obtain rfl := Option.some.inj (hsuper.symm.trans hother)
          exact .inr ⟨path, hrest, type, ht, himpl⟩

theorem isPrefix_ascend (closed : g.Closed seen) (fresh : name ∉ seen) :
    seen ++ [name] <+: g.ascend seen name fresh := by
  refine ascend_induction (motive := fun seen name result => seen ++ [name] <+: result)
    ?_ ?_ closed fresh
  · intro seen name _ _ _
    exact isPrefix_visit g _ _
  · intro seen name super result _ _ _ _ ih
    exact (isPrefix_visit g _ _).trans ((List.prefix_append _ _).trans ih)

/-- If the root has neither super type nor interfaces, and no type that is climbed below implements
    it, a climb comes to it last or not at all. -/
theorem getLast?_ascend (hsuper : g.super? object = none) (hplain : g.interfaces object = [])
    (closed : g.Closed seen) (fresh : name ∉ seen) (hroot : object ∉ seen)
    (hbelow : ∀ path, g.AscendsFrom seen (name :: path) →
      ∀ type ∈ name :: path, g.Implements type object → type = object)
    (hmem : object ∈ g.ascend seen name fresh) :
    (g.ascend seen name fresh).getLast? = some object := by
  revert hroot hbelow hmem
  refine ascend_induction (motive := fun seen name result => object ∉ seen →
    (∀ path, g.AscendsFrom seen (name :: path) →
      ∀ type ∈ name :: path, g.Implements type object → type = object) →
    object ∈ result → result.getLast? = some object) ?_ ?_ closed fresh
  · intro seen name closed fresh _ hroot hbelow hmem
    rcases (mem_visitType_iff closed).1 hmem with hmem | himpl
    · exact absurd hmem hroot
    · obtain rfl := hbelow [] (ascendsFrom_singleton fresh) name (List.mem_singleton_self name) himpl
      rw [visitType, hplain, visit, List.getLast?_concat]
  · intro seen name super result closed fresh hclimb hnew ih hroot hbelow hmem
    refine ih ?_ ?_ hmem
    · intro hvisited
      rcases (mem_visitType_iff closed).1 hvisited with hseen | himpl
      · exact hroot hseen
      · -- nothing is climbed behind the root
        obtain rfl := hbelow [] (ascendsFrom_singleton fresh) name (List.mem_singleton_self name) himpl
        cases hsuper.symm.trans hclimb
    · intro path hpath type ht himpl
      have hlonger := (ascendsFrom_cons_iff closed).2 ⟨fresh, hclimb, hpath⟩
      exact hbelow (super :: path) hlonger type (List.mem_cons_of_mem name ht) himpl

/-! ### Walks -/

theorem ascendsFrom_nil_iff {path : List String} : g.AscendsFrom [] path ↔ g.Ascends path :=
  and_iff_left fun _ _ => List.not_mem_nil

theorem closed_nil (g : TypeGraph) : g.Closed [] := by
  intro type ht
  cases ht

theorem mem_walk_iff :
    other ∈ g.walk name ↔ other = object ∨
      ∃ path, g.Ascends (name :: path) ∧ ∃ type ∈ name :: path, g.Implements type other := by
  have hmem := @mem_ascend_iff g [] name other g.closed_nil List.not_mem_nil
  simp only [ascendsFrom_nil_iff, List.not_mem_nil, false_or] at hmem
  rw [← hmem, walk]
  by_cases hroot : object ∈ g.ascend [] name List.not_mem_nil
  · rw [if_pos hroot]
    constructor
    · exact .inr
    · intro h
      rcases h with rfl | h
      · exact hroot
      · exact h
  · rw [if_neg hroot, List.mem_append, List.mem_singleton]
    exact or_comm

theorem exists_walk_eq_cons (g : TypeGraph) (name : String) :
    ∃ rest, g.walk name = name :: rest := by
  obtain ⟨rest, hrest⟩ := isPrefix_ascend g.closed_nil (List.not_mem_nil (a := name))
  rw [walk, ← hrest]
  split
  · exact ⟨rest, rfl⟩
  · exact ⟨rest ++ [object], rfl⟩

/-- The walk contains a type and its super types as long as none of them is an interface of one
    below. It is what these types implement, and the root. The root is the last type, if nothing is
    declared above it and no type that is climbed has it as an interface. -/
theorem walk_superTypes (g : TypeGraph) (name : String) :
    (∀ path, (name :: path).IsChain (fun type super => g.super? type = some super) →
      ((name :: path).Pairwise fun below above => ¬ g.Implements below above) →
      ∀ type ∈ name :: path, type ∈ g.walk name) ∧
    (∀ other, other ∈ g.walk name ↔ other = object ∨
      ∃ path, g.Ascends (name :: path) ∧ ∃ type ∈ name :: path, g.Implements type other) ∧
    (g.super? object = none → g.interfaces object = [] →
      (∀ path, g.Ascends (name :: path) →
        ∀ type ∈ name :: path, g.Implements type object → type = object) →
      (g.walk name).getLast? = some object) := by
  refine ⟨?_, fun other => mem_walk_iff, ?_⟩
  · intro path hchain hfresh type ht
    exact mem_walk_iff.2 (.inr ⟨path, ⟨hchain, hfresh⟩, type, ht, g.implements_self type⟩)
  · intro hsuper hplain hbelow
    have hbelow' : ∀ path, g.AscendsFrom [] (name :: path) →
        ∀ type ∈ name :: path, g.Implements type object → type = object :=
      fun path hpath => hbelow path (ascendsFrom_nil_iff.1 hpath)
    have hlast := getLast?_ascend hsuper hplain g.closed_nil (List.not_mem_nil (a := name))
      List.not_mem_nil hbelow'
    rw [walk]
    by_cases hroot : object ∈ g.ascend [] name List.not_mem_nil
    · rw [if_pos hroot]
      exact hlast hroot
    · rw [if_neg hroot, List.getLast?_concat]

/-- What is no interface of a declared type is implemented by no other type. -/
theorem eq_of_implements (h : ∀ entry ∈ g.nodes, other ∉ entry.2.interfaces)
    (himpl : g.Implements name other) : name = other := by
  rcases ReflTransGen.cases_tail himpl with heq | ⟨type, -, hinterface⟩
  · exact heq.symm
  · exfalso
    unfold interfaces node? at hinterface
    cases hn : g.nodes.lookup type with
    | none => simp [hn] at hinterface
    | some node =>
      obtain ⟨front, back, hnodes, -⟩ := List.lookup_eq_some_iff.1 hn
      simp only [hn, Option.map_some, Option.getD_some] at hinterface
      exact h (type, node) (by rw [hnodes]; simp) hinterface

/-- A circle is a shape, and both have interfaces. -/
theorem walk_superTypes_circle :
    let g := (standard.declare "shape" none ["drawable"]).declare "circle" (some "shape")
      ["comparable"]
    let path := ["shape", object]
    ("circle" :: path).IsChain (fun type super => g.super? type = some super) ∧
      (("circle" :: path).Pairwise fun below above => ¬ g.Implements below above) ∧
      (∀ type ∈ "circle" :: path, type ∈ g.walk "circle") ∧
      (g.walk "circle").getLast? = some object := by
  intro g path
  have hchain : ("circle" :: path).IsChain (fun type super => g.super? type = some super) := by
    decide
  have hshape : ∀ entry ∈ g.nodes, "shape" ∉ entry.2.interfaces := by decide
  have hroot : ∀ entry ∈ g.nodes, object ∉ entry.2.interfaces := by decide
  have hfresh : ("circle" :: path).Pairwise fun below above => ¬ g.Implements below above := by
    simp only [path, List.pairwise_cons, List.forall_mem_cons]
    refine ⟨⟨?_, ?_, by simp⟩, ⟨?_, by simp⟩, by simp⟩
    · intro h
      exact absurd (eq_of_implements hshape h) (by decide)
    · intro h
      exact absurd (eq_of_implements hroot h) (by decide)
    · intro h
      exact absurd (eq_of_implements hroot h) (by decide)
  obtain ⟨hmem, -, hlast⟩ := walk_superTypes g "circle"
  refine ⟨hchain, hfresh, hmem path hchain hfresh, hlast (by decide) (by decide) ?_⟩
  intro _ _ type _ h
  exact eq_of_implements hroot h

/-- A circle that has the shape, its super type, among its interfaces: the walk passes over the
    super type of the shape. And a point that has the root among its interfaces: the root is not
    the last type. -/
theorem not_walk_solid :
    let g := (standard.declare "shape" (some "solid") []).declare "circle" (some "shape") ["shape"]
    let g' := standard.declare "point" (some "shape") [object]
    g.super? "circle" = some "shape" ∧ g.super? "shape" = some "solid" ∧
      "solid" ∉ g.walk "circle" ∧ (g'.walk "point").getLast? ≠ some object := by
  intro g g'
  have hcircle : g.walk "circle" = ["circle", "shape", object] := by
    have hvisit : g.visitType [] "circle" = ["circle", "shape"] :=
      visitType_of_flat (by decide) (by decide)
    have hseen : ∀ super, g.super? "circle" = some super → super ∈ g.visitType [] "circle" := by
      intro super hsuper
      obtain rfl := Option.some.inj hsuper
      rw [hvisit]
      decide
    rw [walk, ascend_of_super?_mem hseen, hvisit]
    rfl
  have hpoint : g'.walk "point" = ["point", object, "shape"] := by
    have hvisit : g'.visitType [] "point" = ["point", object] :=
      visitType_of_flat (by decide) (by decide)
    have hnew : "shape" ∉ g'.visitType [] "point" := by
      rw [hvisit]
      decide
    have hshape : g'.visitType (g'.visitType [] "point") "shape" = ["point", object, "shape"] := by
      rw [hvisit]
      exact visitType_of_flat (by decide) (by decide)
    have hseen : ∀ super, g'.super? "shape" = some super →
        super ∈ g'.visitType (g'.visitType [] "point") "shape" := by
      intro super hsuper
      obtain rfl := Option.some.inj hsuper
      rw [hshape]
      decide
    have hsuper : g'.super? "point" = some "shape" := by decide
    rw [walk, ascend_of_super? hsuper hnew, ascend_of_super?_mem hseen, hshape]
    rfl
  refine ⟨by decide, by decide, ?_, ?_⟩
  · intro h
    exact absurd (hcircle ▸ h) (by decide)
  · intro h
    exact absurd (hpoint ▸ h) (by decide)

end TypeGraph

end Phrasebook
