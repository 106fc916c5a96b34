import Phrasebook.Formatter.Registry
import Phrasebook.Proofs.Formatter.Walk

/-! # Formatters that values find

    Every value that is not of a type of its own finds by its type the formatter that is made for it
    (`Registry.resolve_standard`). The types of values are plain (`TypeGraph.Plain`): they climb to
    the root, their interfaces have none, and no type comes twice. So their walks are climbs with
    the interfaces of each type behind it (`TypeGraph.Plain.walk_eq`). -/

namespace Phrasebook

/-! ### Plain climbs -/

namespace TypeGraph

variable {g : TypeGraph} {seen path : List String} {name : String}

/-- The types of a climb, each with its interfaces behind it. -/
def withInterfaces (g : TypeGraph) (path : List String) : List String :=
  path.flatMap fun type => type :: g.interfaces type

/-- A climb to a type without a super type, in which interfaces have no interfaces. -/
structure Climbs (g : TypeGraph) (path : List String) : Prop where
  /-- Each type is the super type of the one in front of it. -/
  chain : path.IsChain fun type super => g.super? type = some super
  /-- The last one has no super type. -/
  last : ∀ type ∈ path.getLast?, g.super? type = none
  /-- Interfaces have no interfaces. -/
  flat : ∀ type ∈ path, ∀ interface ∈ g.interfaces type, g.interfaces interface = []

/-- A climb to the root among types that all come once. -/
structure Plain (g : TypeGraph) (path : List String) : Prop extends g.Climbs path where
  /-- No type comes twice. -/
  nodup : (g.withInterfaces path).Nodup
  /-- The root is one of the types. -/
  root : object ∈ g.withInterfaces path

theorem Climbs.tail {super : String} (h : g.Climbs (name :: super :: path)) :
    g.Climbs (super :: path) where
  chain := (List.isChain_cons_cons.1 h.chain).2
  last := h.last
  flat := (List.forall_mem_cons.1 h.flat).2

/-- What is climbed is added to what is seen. -/
theorem Climbs.ascend_eq (h : g.Climbs (name :: path))
    (hnodup : (seen ++ g.withInterfaces (name :: path)).Nodup) (fresh : name ∉ seen) :
    g.ascend seen name fresh = seen ++ g.withInterfaces (name :: path) := by
  induction path generalizing seen name with
  | nil =>
    have hlisted : g.withInterfaces [name] = name :: g.interfaces name := List.append_nil _
    rw [hlisted] at hnodup ⊢
    rw [ascend_of_super?_mem, visitType_of_flat (h.flat name List.mem_cons_self) hnodup]
    intro super hsuper
    cases (h.last name rfl).symm.trans hsuper
  | cons super path ih =>
    have hlisted : seen ++ g.withInterfaces (name :: super :: path) =
        (seen ++ name :: g.interfaces name) ++ g.withInterfaces (super :: path) :=
      (List.append_assoc ..).symm
    rw [hlisted] at hnodup ⊢
    have hvisit : g.visitType seen name = seen ++ name :: g.interfaces name :=
      visitType_of_flat (h.flat name List.mem_cons_self) (List.nodup_append.1 hnodup).1
    have hnew : super ∉ g.visitType seen name := by
      rw [hvisit]
      intro hs
      exact (List.nodup_append.1 hnodup).2.2 super hs super List.mem_cons_self rfl
    rw [ascend_of_super? (List.isChain_cons_cons.1 h.chain).1 hnew]
    rw [← hvisit] at hnodup ⊢
    exact ih h.tail hnodup hnew

/-- The walk of a type lists its climb, if this is plain. -/
theorem Plain.walk_eq (h : g.Plain (name :: path)) :
    g.walk name = g.withInterfaces (name :: path) := by
  rw [walk, h.ascend_eq h.nodup, List.nil_append]
  exact if_pos h.root

/-- The climbs from the types of values. -/
def valueClimbs : List (List String) :=
  [["null", object], ["bool", object], ["i8", "number", object], ["i16", "number", object],
    ["i32", "number", object], ["i64", "number", object], ["f32", "number", object],
    ["f64", "number", object], ["char", object], ["string", object], ["list", object],
    ["map", object], ["optional", object], ["supplier", object]]

theorem plain_valueClimbs : ∀ path ∈ valueClimbs, standard.Plain path := by
  have hall : ∀ path ∈ valueClimbs,
      path.IsChain (fun type super => standard.super? type = some super) ∧
        (∀ type ∈ path.getLast?, standard.super? type = none) ∧
        (∀ type ∈ path, ∀ interface ∈ standard.interfaces type,
          standard.interfaces interface = []) ∧
        (standard.withInterfaces path).Nodup ∧ object ∈ standard.withInterfaces path := by
    decide
  intro path hp
  obtain ⟨hchain, hlast, hflat, hnodup, hroot⟩ := hall path hp
  exact ⟨⟨hchain, hlast, hflat⟩, hnodup, hroot⟩

end TypeGraph

/-! ### Values -/

/-- The formatter that is made for values like this one, and the one for strings for values of types
    of their own. -/
def Value.builtin : Value → Builtin
  | .bool _ => .bool
  | .integer _ _ | .float _ _ => .number
  | .list _ => .list
  | .map _ => .map
  | .optional _ => .optional
  | .supplier _ => .supplier
  | .null | .char _ | .string _ | .object _ _ => .string

namespace Registry

open TypeGraph (object)

theorem resolve_of_walk {registry : Registry} {type : String} {types : List String}
    {formatter : Formatter} (hwalk : registry.types.walk type = types)
    (hfirst : (types.flatMap fun name =>
      ((registry.typed.lookup name).getD []).map Registration.formatter).head? = some formatter) :
    registry.resolve none type = formatter := by
  rw [resolve, find?, formattersFor, hwalk, hfirst]
  rfl

/-- A type of values finds the first formatter among those of the types that it climbs to. -/
theorem resolve_of_mem_valueClimbs {kind : Builtin} (name : String) (path : List String)
    (hpath : name :: path ∈ TypeGraph.valueClimbs)
    (hfirst : ((TypeGraph.standard.withInterfaces (name :: path)).flatMap fun type =>
      ((standard.typed.lookup type).getD []).map Registration.formatter).head? =
        some (.builtin kind)) :
    standard.resolve none name = .builtin kind :=
  resolve_of_walk (TypeGraph.plain_valueClimbs _ hpath).walk_eq hfirst

/-- Values find the formatter that is made for them, unless they are of types of their own. -/
theorem resolve_standard (value : Value) (h : ∀ type text, value ≠ .object type text) :
    standard.resolve none value.typeName = .builtin value.builtin := by
  cases value with
  | null => exact resolve_of_mem_valueClimbs "null" [object] (by decide) rfl
  | bool => exact resolve_of_mem_valueClimbs "bool" [object] (by decide) rfl
  | integer type n =>
    cases type with
    | i8 => exact resolve_of_mem_valueClimbs "i8" ["number", object] (by decide) rfl
    | i16 => exact resolve_of_mem_valueClimbs "i16" ["number", object] (by decide) rfl
    | i32 => exact resolve_of_mem_valueClimbs "i32" ["number", object] (by decide) rfl
    | i64 => exact resolve_of_mem_valueClimbs "i64" ["number", object] (by decide) rfl
  | float type number =>
    cases type with
    | f32 => exact resolve_of_mem_valueClimbs "f32" ["number", object] (by decide) rfl
    | f64 => exact resolve_of_mem_valueClimbs "f64" ["number", object] (by decide) rfl
  | char => exact resolve_of_mem_valueClimbs "char" [object] (by decide) rfl
  | string => exact resolve_of_mem_valueClimbs "string" [object] (by decide) rfl
  | list => exact resolve_of_mem_valueClimbs "list" [object] (by decide) rfl
  | map => exact resolve_of_mem_valueClimbs "map" [object] (by decide) rfl
  | optional => exact resolve_of_mem_valueClimbs "optional" [object] (by decide) rfl
  | supplier => exact resolve_of_mem_valueClimbs "supplier" [object] (by decide) rfl
  | object type text => exact absurd rfl (h type text)

end Registry

end Phrasebook
