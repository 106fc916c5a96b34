/-!
# The graph of types

A type has a super type and interfaces; the type `object` is at the root. The walk of a type lists
where formatters for it are looked up: the type, its interfaces and theirs, then its super type in
the same way, and so on; `object` is always among them. No type is listed twice, whatever is
declared, because types seen before are passed over; that is also why the walk ends.
-/

namespace Phrasebook

/-- What is declared of a type. -/
structure TypeNode where
  /-- The super type. -/
  super : Option String
  /-- The interfaces in order. -/
  interfaces : List String
deriving DecidableEq, Repr, Inhabited

/-- Declared types by name. -/
structure TypeGraph where
  /-- One node for each declared name. -/
  nodes : List (String × TypeNode)
deriving Repr, Inhabited

namespace TypeGraph

/-- The type above all others. -/
def object : String := "object"

/-- The graph that knows the root alone. -/
def rootOnly : TypeGraph := ⟨[(object, ⟨none, []⟩)]⟩

/-- What is declared of a name. -/
def node? (g : TypeGraph) (name : String) : Option TypeNode := g.nodes.lookup name

/-- Tells whether a name is declared. -/
def contains (g : TypeGraph) (name : String) : Bool := (g.node? name).isSome

/-- Declares a type, anew if it is known. Without a super type it is a subtype of the root. -/
def declare (g : TypeGraph) (name : String) (super : Option String) (interfaces : List String) :
    TypeGraph :=
  let super := if super.isNone && name != object then some object else super
  ⟨g.nodes.filter (·.1 != name) ++ [(name, ⟨super, interfaces⟩)]⟩

/-- The graph of the types of values. -/
def standard : TypeGraph :=
  let plain := ["null", "bool", "number", "integral", "floating", "char-sequence", "char",
    "iterable", "map", "optional", "supplier"]
  let g := plain.foldl (fun g name => g.declare name none []) rootOnly
  let g := ["i8", "i16", "i32", "i64"].foldl
    (fun g name => g.declare name (some "number") ["integral"]) g
  let g := ["f32", "f64"].foldl (fun g name => g.declare name (some "number") ["floating"]) g
  (g.declare "string" none ["char-sequence"]).declare "list" none ["iterable"]

/-- The interfaces of a type; unknown types have none. -/
def interfaces (g : TypeGraph) (name : String) : List String :=
  ((g.node? name).map TypeNode.interfaces).getD []

/-- The super type; unknown types are subtypes of the root. -/
def super? (g : TypeGraph) (name : String) : Option String :=
  match g.node? name with
  | some node => node.super
  | none => some object

/-! ## Walking the graph -/

/-- Number of declared types not yet seen. -/
def unseen (g : TypeGraph) (seen : List String) : Nat :=
  (g.nodes.filter fun n => n.1 ∉ seen).length

theorem unseen_append_le (g : TypeGraph) (seen : List String) (name : String) :
    g.unseen (seen ++ [name]) ≤ g.unseen seen := by
  unfold unseen
  induction g.nodes with
  | nil => simp
  | cons n ns ih =>
    simp only [List.filter_cons]
    by_cases h : n.1 ∈ seen
    · simpa [h] using ih
    · by_cases h' : n.1 = name
      · subst h'
        simp [h] at ih ⊢
        omega
      · simp [h, h'] at ih ⊢
        omega

/-- Seeing a declared type leaves fewer to see. -/
theorem unseen_append_lt {g : TypeGraph} {seen : List String} {name : String}
    (hd : g.contains name = true) (hs : name ∉ seen) :
    g.unseen (seen ++ [name]) < g.unseen seen := by
  obtain ⟨ns⟩ := g
  simp only [contains, node?] at hd
  unfold unseen
  induction ns with
  | nil => simp at hd
  | cons n ns ih =>
    obtain ⟨key, node⟩ := n
    have hle := unseen_append_le ⟨ns⟩ seen name
    simp only [unseen] at hle
    simp only [List.filter_cons]
    by_cases hn : name = key
    · subst hn
      simp [hs] at hle ⊢
      omega
    · rw [List.lookup_cons, beq_false_of_ne hn] at hd
      have := ih hd
      by_cases h : key ∈ seen
      · simpa [h] using this
      · have hkn : ¬ key = name := fun e => hn e.symm
        simp [h, hkn] at this ⊢
        omega

/-- Visits the types of a stack and their interfaces, depth first; those seen are passed over. -/
def visit (g : TypeGraph) (seen : List String) : (stack : List String) → List String
  | [] => seen
  | name :: stack =>
    if name ∈ seen then g.visit seen stack
    else g.visit (seen ++ [name]) (g.interfaces name ++ stack)
termination_by stack => (g.unseen seen, stack.length)
decreasing_by
  · exact Prod.Lex.right _ (by simp)
  · rename_i hs
    by_cases hd : g.contains name = true
    · exact Prod.Lex.left _ _ (unseen_append_lt hd hs)
    · have hi : g.interfaces name = [] := by
        simp only [contains, Bool.not_eq_true, Option.isSome_eq_false_iff,
          Option.isNone_iff_eq_none] at hd
        simp [interfaces, hd]
      have hle := unseen_append_le g seen name
      rw [hi]
      rcases Nat.lt_or_eq_of_le hle with h | h
      · exact Prod.Lex.left _ _ h
      · rw [h]
        exact Prod.Lex.right _ (by simp)

/-- Distance of a type from being declared: the root stands in for unknown types. -/
def remoteness (g : TypeGraph) (name : String) : Nat :=
  if g.contains name then 0 else if name = object then 1 else 2

theorem unseen_visit_le (g : TypeGraph) (seen stack : List String) :
    g.unseen (g.visit seen stack) ≤ g.unseen seen := by
  induction seen, stack using visit.induct g with
  | case1 seen => simp [visit]
  | case2 seen name stack hs ih => rw [visit, if_pos hs]; exact ih
  | case3 seen name stack hs ih =>
    rw [visit, if_neg hs]
    exact Nat.le_trans ih (unseen_append_le g seen name)

theorem subset_visit (g : TypeGraph) (seen stack : List String) : seen ⊆ g.visit seen stack := by
  induction seen, stack using visit.induct g with
  | case1 seen => simp [visit]
  | case2 seen name stack hs ih => rw [visit, if_pos hs]; exact ih
  | case3 seen name stack hs ih =>
    rw [visit, if_neg hs]
    exact fun x hx => ih (by simp [hx])

/-- Walks from a type not seen yet to its super types; a type seen before ends the walk. -/
def ascend (g : TypeGraph) (seen : List String) (name : String) (_fresh : name ∉ seen) :
    List String :=
  let seen' := g.visit (seen ++ [name]) (g.interfaces name)
  match _h : g.super? name with
  | none => seen'
  | some super => if fresh : super ∈ seen' then seen' else g.ascend seen' super fresh
termination_by (g.unseen seen, g.remoteness name)
decreasing_by
  have hle := unseen_visit_le g (seen ++ [name]) (g.interfaces name)
  by_cases hd : g.contains name = true
  · have := unseen_append_lt hd _fresh
    exact Prod.Lex.left _ _ (by omega)
  · have hle' := unseen_append_le g seen name
    rcases Nat.lt_or_eq_of_le (Nat.le_trans hle hle') with h | h
    · exact Prod.Lex.left _ _ h
    · rw [h]
      refine Prod.Lex.right _ ?_
      have hnode : g.node? name = none := by
        simpa [contains, Option.isSome_eq_false_iff, Option.isNone_iff_eq_none] using hd
      simp only [super?, hnode, Option.some.injEq] at _h
      subst _h
      have hne : name ≠ object := by
        intro e
        exact fresh (subset_visit _ _ _ (by simp [e]))
      simp only [remoteness, hd, hne, if_false]
      split <;> simp

/-- Where formatters for a type are looked up, in order. -/
def walk (g : TypeGraph) (name : String) : List String :=
  let seen := g.ascend [] name (List.not_mem_nil)
  if object ∈ seen then seen else seen ++ [object]

end TypeGraph

end Phrasebook
