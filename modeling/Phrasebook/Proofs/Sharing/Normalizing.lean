import Phrasebook.Proofs.Message.Equivalence
import Phrasebook.Proofs.Sharing.Pool

/-! # One node in the place of another

    A call on a pool hands out a kept node that is the same as the given one, or keeps the given
    one. Sameness of nodes is an equivalence, so it does not matter which of the nodes that are the
    same is given. Sharing a part or a message is such a call for an instance of its own. -/

namespace Phrasebook

/-! ### Sameness of nodes -/

/-- Nodes that are the same are the same as the same nodes. -/
theorem Node.same_congr {a b : Node} (h : (a == b) = true) (c : Node) : (a == c) = (b == c) := by
  cases a with
  | part first =>
    cases b with
    | part second =>
      cases c with
      | part third => exact Part.same_congr h third.part
      | message _ => rfl
    | message _ => cases h
  | message first =>
    cases b with
    | part _ => cases h
    | message second =>
      cases c with
      | part _ => rfl
      | message third => exact Message.same_congr h third.message

theorem Node.same_rfl (a : Node) : (a == a) = true := by
  cases a with
  | part shared => exact Part.same_refl shared.part
  | message shared => exact Message.same_refl shared.message

instance : EquivBEq Node where
  rfl := by
    intro a
    exact a.same_rfl
  symm := by
    intro a b hab
    rw [← Node.same_congr hab a]
    exact a.same_rfl
  trans := by
    intro a b c hab hbc
    rw [Node.same_congr hab c]
    exact hbc

namespace Pool

/-! ### One call -/

theorem run_normalize (pool : Pool) (node : Node) :
    (normalize node).run pool =
      match pool.kept.find? (· == node) with
      | some known => (known, pool.touch known)
      | none => (node, pool.keep node) := by
  show normalize node pool = _
  unfold normalize
  show (match pool.kept.find? (· == node) with | some _ => _ | none => _ : StateM _ _) pool = _
  cases pool.kept.find? (· == node) <;> rfl

theorem run_normalize_of_some {pool : Pool} {node known : Node}
    (h : pool.kept.find? (· == node) = some known) :
    (normalize node).run pool = (known, pool.touch known) := by
  rw [run_normalize, h]

theorem run_normalize_of_none {pool : Pool} {node : Node}
    (h : pool.kept.find? (· == node) = none) :
    (normalize node).run pool = (node, pool.keep node) := by
  rw [run_normalize, h]

/-- What is handed out is the same as what is given. -/
theorem beq_of_normalize (pool : Pool) (node : Node) :
    (((normalize node).run pool).1 == node) = true := by
  cases h : pool.kept.find? (· == node) with
  | none =>
    rw [run_normalize_of_none h]
    exact node.same_rfl
  | some known =>
    have hsame : (known == node) = true := by simpa using List.find?_some h
    rw [run_normalize_of_some h]
    exact hsame

/-- What is handed out is kept already, or is the given instance. -/
theorem mem_kept_of_normalize (pool : Pool) (node : Node) :
    ((normalize node).run pool).1 ∈ pool.kept ∨ ((normalize node).run pool).1 = node := by
  cases h : pool.kept.find? (· == node) with
  | none =>
    rw [run_normalize_of_none h]
    exact .inr rfl
  | some known =>
    rw [run_normalize_of_some h]
    exact .inl (List.mem_of_find?_eq_some h)

/-! ### Sharing -/

theorem find?_eq_map_findSome? {α β : Type} {p : α → Bool} {f : α → Option β} {g : β → α}
    (hf : ∀ a, (f a).map g = if p a then some a else none) (as : List α) :
    as.find? p = (as.findSome? f).map g := by
  induction as with
  | nil => rfl
  | cons a as ih =>
    have ha := hf a
    by_cases hp : p a = true
    · rw [if_pos hp] at ha
      obtain ⟨b, hb, -⟩ := Option.map_eq_some_iff.1 ha
      rw [List.find?_cons_of_pos hp, List.findSome?_cons, hb, ← ha, hb]
    · rw [if_neg hp, Option.map_eq_none_iff] at ha
      rw [List.find?_cons_of_neg hp, List.findSome?_cons, ha, ih]

/-- Which nodes are kept does not depend on the number of the next instance. -/
theorem kept_keep_next (pool : Pool) (next : Nat) (node : Node) :
    ({ pool with next }.keep node).kept = (pool.keep node).kept := by
  unfold keep
  cases pool.policy <;> rfl

/-- A part is shared as an instance of its own is normalized. -/
theorem sharePart_eq_normalize (pool : Pool) (part : Part) :
    let shared := (sharePart part).run pool
    let normal := (normalize (.part ⟨pool.next, part⟩)).run pool
    Node.part shared.1 = normal.1 ∧ shared.2.kept = normal.2.kept := by
  intro shared normal
  have hfind : pool.kept.find? (· == .part ⟨pool.next, part⟩) =
      (pool.kept.findSome? (Node.samePart? part)).map Node.part := by
    apply find?_eq_map_findSome?
    intro node
    cases node with
    | message _ => rfl
    | part known => exact apply_ite (Option.map Node.part) _ _ _
  have hshared : shared = _ := run_sharePart pool part
  have hnormal : normal = _ := run_normalize pool (.part ⟨pool.next, part⟩)
  rw [hfind] at hnormal
  rw [hshared, hnormal]
  cases pool.kept.findSome? (Node.samePart? part) with
  | some known => exact ⟨rfl, rfl⟩
  | none => exact ⟨rfl, kept_keep_next pool _ _⟩

/-- A message is shared as an instance of its own is normalized. -/
theorem shareWith_eq_normalize (pool : Pool) (message : Message) (parts : List Nat) :
    let shared := (shareWith message parts).run pool
    let normal := (normalize (.message ⟨pool.next, message, parts⟩)).run pool
    Node.message shared.1 = normal.1 ∧ shared.2.kept = normal.2.kept := by
  intro shared normal
  have hfind : pool.kept.find? (· == .message ⟨pool.next, message, parts⟩) =
      (pool.kept.findSome? (Node.sameMessage? message)).map Node.message := by
    apply find?_eq_map_findSome?
    intro node
    cases node with
    | part _ => rfl
    | message known => exact apply_ite (Option.map Node.message) _ _ _
  have hshared : shared = _ := run_shareWith pool message parts
  have hnormal : normal = _ := run_normalize pool (.message ⟨pool.next, message, parts⟩)
  rw [hfind] at hnormal
  rw [hshared, hnormal]
  cases pool.kept.findSome? (Node.sameMessage? message) with
  | some known => exact ⟨rfl, rfl⟩
  | none => exact ⟨rfl, kept_keep_next pool _ _⟩

end Pool

end Phrasebook
