import Mathlib.Data.List.Nodup
import Phrasebook.Proofs.Sharing.Normalizing
import Phrasebook.Proofs.Sharing.Repetition

/-! # The nodes used most recently

    A pool that keeps a number of nodes is a list of what was handed out, the latest first, without
    repetition and cut off behind that number:

    * `Recent`: the invariant. A call that finds its node takes it out of the list and puts it in
      front again; one that finds none puts the given node there, and the last one may go.
    * `normalize_recent`: what a call hands out is decided by how many other nodes came since the
      latest call for the same one. If no node ever has to go, the pool hands out what a pool that
      keeps all nodes does. -/

namespace Phrasebook

namespace Pool

/-! ### Many calls -/

/-- What a new pool hands out for nodes one after another, and the pool behind the calls. -/
def normalizeAll (policy : PoolPolicy) (calls : List Node) : List Node × Pool :=
  (calls.mapM normalize).run { policy }

/-- What a new pool hands out for a node behind calls. -/
def answer (policy : PoolPolicy) (calls : List Node) (node : Node) : Node :=
  ((normalize node).run (normalizeAll policy calls).2).1

/-- The number of an instance tells it apart from all others. -/
def Instances (nodes : List Node) : Prop := ∀ a ∈ nodes, ∀ b ∈ nodes, a.id = b.id → a = b

/-- New instances are told apart. -/
theorem Instances.of_nodup {nodes : List Node} (h : (nodes.map Node.id).Nodup) :
    Instances nodes := by
  intro a ha b hb hid
  exact List.inj_on_of_nodup_map h ha hb hid

theorem Instances.of_subset {nodes more : List Node} (h : Instances more)
    (hsub : ∀ node ∈ nodes, node ∈ more) : Instances nodes := by
  intro a ha b hb
  exact h a (hsub a ha) b (hsub b hb)

variable {policy : PoolPolicy} {calls : List Node} {node : Node}

theorem normalizeAll_concat (policy : PoolPolicy) (calls : List Node) (node : Node) :
    normalizeAll policy (calls ++ [node]) =
      ((normalizeAll policy calls).1 ++ [answer policy calls node],
        ((normalize node).run (normalizeAll policy calls).2).2) := by
  unfold answer normalizeAll
  rw [List.mapM_append]
  rfl

/-- Later calls change nothing in what was handed out, and hand out the same as they are given. -/
theorem normalizeAll_append (policy : PoolPolicy) (calls more : List Node) :
    ∃ rest, (normalizeAll policy (calls ++ more)).1 = (normalizeAll policy calls).1 ++ rest ∧
      List.Forall₂ (fun a b => (a == b) = true) rest more := by
  induction more using List.reverseRecOn with
  | nil =>
    refine ⟨[], ?_, List.Forall₂.nil⟩
    rw [List.append_nil, List.append_nil]
  | append_singleton more node ih =>
    obtain ⟨rest, hrest, hsame⟩ := ih
    refine ⟨rest ++ [answer policy (calls ++ more) node], ?_, ?_⟩
    · rw [← List.append_assoc, normalizeAll_concat, hrest, List.append_assoc]
    · apply List.rel_append hsame
      exact List.Forall₂.cons (beq_of_normalize _ node) List.Forall₂.nil

/-- What is handed out is the same as what is given, call by call. -/
theorem forall₂_normalizeAll (policy : PoolPolicy) (calls : List Node) :
    List.Forall₂ (fun a b => (a == b) = true) (normalizeAll policy calls).1 calls := by
  obtain ⟨rest, hrest, hsame⟩ := normalizeAll_append policy [] calls
  rw [List.nil_append] at hrest
  rw [hrest]
  exact hsame

/-! ### Kept nodes are given nodes -/

theorem mem_of_mem_touch {pool : Pool} {known other : Node} (h : other ∈ (pool.touch known).kept) :
    other = known ∨ other ∈ pool.kept := by
  unfold touch at h
  split at h
  · rcases List.mem_cons.1 h with rfl | h
    · exact .inl rfl
    · exact .inr (List.mem_filter.1 h).1
  · exact .inr h
  · exact .inr h

theorem mem_of_mem_keep {pool : Pool} {other : Node} (h : other ∈ (pool.keep node).kept) :
    other = node ∨ other ∈ pool.kept := by
  unfold keep at h
  split at h
  · exact .inr h
  · rcases List.mem_append.1 h with h | h
    · exact .inr h
    · exact .inl (List.mem_singleton.1 h)
  · exact List.mem_cons.1 (List.mem_of_mem_take h)

/-- A call keeps no node but the given one and those that were kept. -/
theorem mem_of_mem_normalize {pool : Pool} {other : Node}
    (h : other ∈ ((normalize node).run pool).2.kept) : other = node ∨ other ∈ pool.kept := by
  cases hf : pool.kept.find? (· == node) with
  | none =>
    rw [run_normalize_of_none hf] at h
    exact mem_of_mem_keep h
  | some known =>
    rw [run_normalize_of_some hf] at h
    rcases mem_of_mem_touch h with rfl | h
    · exact .inr (List.mem_of_find?_eq_some hf)
    · exact .inr h

/-- What is handed out and what is kept was given. -/
theorem mem_calls_of_normalizeAll (policy : PoolPolicy) (calls : List Node) :
    (∀ other ∈ (normalizeAll policy calls).1, other ∈ calls) ∧
      ∀ other ∈ (normalizeAll policy calls).2.kept, other ∈ calls := by
  induction calls using List.reverseRecOn with
  | nil =>
    constructor
    · intro other h
      cases h
    · intro other h
      cases h
  | append_singleton calls node ih =>
    rw [normalizeAll_concat]
    constructor
    · intro other h
      rcases List.mem_append.1 h with h | h
      · exact List.mem_append_left _ (ih.1 other h)
      · obtain rfl := List.mem_singleton.1 h
        rcases mem_kept_of_normalize (normalizeAll policy calls).2 node with hk | hn
        · exact List.mem_append_left _ (ih.2 _ hk)
        · exact List.mem_append_right _ (List.mem_singleton.2 hn)
    · intro other h
      rcases mem_of_mem_normalize h with rfl | h
      · exact List.mem_append_right _ (List.mem_singleton_self other)
      · exact List.mem_append_left _ (ih.2 other h)

/-! ### The list of recent nodes -/

/-- The pool keeps the first nodes of a history that begins with the latest one, without
    repetition. -/
structure Recent (capacity : Nat) (history : List Node) (pool : Pool) : Prop where
  /-- The pool keeps so many nodes. -/
  policy : pool.policy = .recent capacity
  /-- They are the first ones of the history. -/
  kept : pool.kept = history.eraseDups.take capacity

section Recent

variable {capacity : Nat} {history : List Node} {pool : Pool}

theorem Recent.apart (h : Recent capacity history pool) : Apart pool.kept := by
  rw [h.kept]
  exact (apart_eraseDups history).sublist (List.take_sublist _ _)

theorem Recent.mem_history (h : Recent capacity history pool) (hn : node ∈ pool.kept) :
    node ∈ history := by
  rw [h.kept] at hn
  exact mem_of_mem_eraseDups (List.mem_of_mem_take hn)

/-- A kept node that is used again comes to the front. -/
theorem Recent.touch (hc : 0 < capacity) (h : Recent capacity history pool)
    (hi : Instances history) (hn : node ∈ pool.kept) :
    Recent capacity (node :: history) (pool.touch node) := by
  obtain ⟨room, rfl⟩ : ∃ room, capacity = room + 1 := ⟨capacity - 1, by omega⟩
  have htouch : pool.touch node = { pool with
      kept := node :: pool.kept.filter (·.id != node.id) } := by
    unfold Pool.touch
    rw [h.policy]
  -- among kept nodes the number of the instance tells as much as sameness
  have hsame : pool.kept.filter (·.id != node.id) = pool.kept.filter fun b => !b == node := by
    apply List.filter_congr
    intro other ho
    by_cases hid : other.id = node.id
    · have he : other = node := hi other (h.mem_history ho) node (h.mem_history hn) hid
      rw [he, node.same_rfl, bne_self_eq_false]
      rfl
    · have hne : (other == node) = false := by
        rw [Bool.eq_false_iff]
        intro hsame
        exact hid (congrArg Node.id (h.apart.eq_of_beq ho hn hsame))
      rw [hne, bne_iff_ne.2 hid]
      rfl
  have htake := hn
  rw [h.kept] at htake
  constructor
  · rw [htouch]
    exact h.policy
  · rw [htouch, eraseDups_cons_filter, List.take_succ_cons,
      (apart_eraseDups history).take_filter_of_mem htake, ← h.kept, ← hsame]

/-- A node that is not kept comes to the front, and the last one may go. -/
theorem Recent.keep (hc : 0 < capacity) (h : Recent capacity history pool)
    (hnew : ∀ other ∈ pool.kept, (other == node) = false) :
    Recent capacity (node :: history) (pool.keep node) := by
  obtain ⟨room, rfl⟩ : ∃ room, capacity = room + 1 := ⟨capacity - 1, by omega⟩
  have hkeep : pool.keep node = { pool with kept := (node :: pool.kept).take (room + 1) } := by
    unfold Pool.keep
    rw [h.policy]
  have hfirst := h.kept ▸ hnew
  constructor
  · rw [hkeep]
    exact h.policy
  · rw [hkeep, eraseDups_cons_filter, List.take_succ_cons, List.take_succ_cons,
      take_filter_of_forall hfirst, h.kept, List.take_take, Nat.min_eq_left (Nat.le_succ room)]

/-- A call puts what it hands out in front of the history. -/
theorem Recent.step (hc : 0 < capacity) (h : Recent capacity history pool)
    (hi : Instances history) (node : Node) :
    Recent capacity (((normalize node).run pool).1 :: history) ((normalize node).run pool).2 := by
  cases hf : pool.kept.find? (· == node) with
  | some known =>
    rw [run_normalize_of_some hf]
    exact h.touch hc hi (List.mem_of_find?_eq_some hf)
  | none =>
    rw [run_normalize_of_none hf]
    apply h.keep hc
    intro other ho
    exact Bool.eq_false_iff.2 (List.find?_eq_none.1 hf other ho)

theorem recent_normalizeAll (hc : 0 < capacity) (hi : Instances calls) :
    Recent capacity (normalizeAll (.recent capacity) calls).1.reverse
      (normalizeAll (.recent capacity) calls).2 := by
  induction calls using List.reverseRecOn with
  | nil =>
    constructor
    · rfl
    · show ([] : List Node) = ([] : List Node).eraseDups.take capacity
      rw [List.eraseDups_nil, List.take_nil]
  | append_singleton calls node ih =>
    have hcalls : Instances calls := hi.of_subset fun _ h => List.mem_append_left _ h
    have hhistory : Instances (normalizeAll (.recent capacity) calls).1.reverse := by
      apply hcalls.of_subset
      intro other h
      exact (mem_calls_of_normalizeAll _ calls).1 other (List.mem_reverse.1 h)
    rw [normalizeAll_concat, List.reverse_append]
    exact (ih hcalls).step hc hhistory node

/-! ### What is handed out -/

/-- A node that too few others have been used since is kept. -/
theorem Recent.answer_of_lt (h : Recent capacity history pool) {front back : List Node}
    {known : Node} (hh : history = front ++ known :: back)
    (hfront : ∀ other ∈ front, (other == node) = false) (hknown : (known == node) = true)
    (hlt : front.eraseDups.length < capacity) : ((normalize node).run pool).1 = known := by
  have hothers : ∀ other ∈ front, (other == known) = false := by
    intro other ho
    rw [BEq.congr_right hknown]
    exact hfront other ho
  obtain ⟨rest, hrest⟩ := eraseDups_append_cons hothers back
  have hfind : pool.kept.find? (· == node) = some known := by
    obtain ⟨room, hroom⟩ : ∃ room, capacity - front.eraseDups.length = room + 1 :=
      ⟨capacity - front.eraseDups.length - 1, by omega⟩
    have hnone : front.eraseDups.find? (· == node) = none := by
      rw [List.find?_eq_none]
      intro other ho
      exact Bool.eq_false_iff.1 (hfront other (mem_of_mem_eraseDups ho))
    rw [h.kept, hh, hrest, List.take_append, List.take_of_length_le (Nat.le_of_lt hlt), hroom,
      List.take_succ_cons, List.find?_append, hnone, List.find?_cons_of_pos (by exact hknown)]
    rfl
  rw [run_normalize_of_some hfind]

/-- A node that many others have been used since is kept no more. -/
theorem Recent.answer_of_le (h : Recent capacity history pool) {front back : List Node}
    {known : Node} (hh : history = front ++ known :: back)
    (hfront : ∀ other ∈ front, (other == node) = false) (hknown : (known == node) = true)
    (hle : capacity ≤ front.eraseDups.length) : ((normalize node).run pool).1 = node := by
  have hothers : ∀ other ∈ front, (other == known) = false := by
    intro other ho
    rw [BEq.congr_right hknown]
    exact hfront other ho
  obtain ⟨rest, hrest⟩ := eraseDups_append_cons hothers back
  have hkept : ∀ other ∈ pool.kept, other ∈ front := by
    intro other ho
    rw [h.kept, hh, hrest, List.take_append_of_le_length hle] at ho
    exact mem_of_mem_eraseDups (List.mem_of_mem_take ho)
  have hfind : pool.kept.find? (· == node) = none := by
    rw [List.find?_eq_none]
    intro other ho
    exact Bool.eq_false_iff.1 (hfront other (hkept other ho))
  rw [run_normalize_of_none hfind]

/-- A node that was never used is not kept. -/
theorem Recent.answer_of_forall (h : Recent capacity history pool)
    (hnew : ∀ other ∈ history, (other == node) = false) : ((normalize node).run pool).1 = node := by
  have hfind : pool.kept.find? (· == node) = none := by
    rw [List.find?_eq_none]
    intro other ho
    exact Bool.eq_false_iff.1 (hnew other (h.mem_history ho))
  rw [run_normalize_of_none hfind]

end Recent

/-! ### What calls hand out, by the calls before -/

section Calls

variable {capacity : Nat} {front between : List Node} {earlier : Node}

/-- What was handed out since an earlier call, the latest first. -/
theorem reverse_normalizeAll (policy : PoolPolicy) (front between : List Node) (earlier : Node) :
    ∃ since, (normalizeAll policy (front ++ earlier :: between)).1.reverse =
        since ++ answer policy front earlier :: (normalizeAll policy front).1.reverse ∧
      since.eraseDups.length = between.eraseDups.length ∧
        ∀ other ∈ since, ∃ given ∈ between, (other == given) = true := by
  obtain ⟨rest, hrest, hsame⟩ := normalizeAll_append policy (front ++ [earlier]) between
  refine ⟨rest.reverse, ?_, ?_, ?_⟩
  · rw [← List.append_cons] at hrest
    rw [hrest, normalizeAll_concat]
    simp only [List.reverse_append, List.reverse_cons, List.reverse_nil, List.nil_append,
      List.cons_append]
  · rw [length_eraseDups_reverse]
    exact (forall₂_eraseDups hsame).length_eq
  · intro other ho
    exact exists_mem_of_forall₂ hsame (List.mem_reverse.1 ho)

/-- What is given again is what was handed out for it the last time, unless too many others came
    since. -/
theorem answer_of_earlier (hc : 0 < capacity)
    (hi : Instances (front ++ earlier :: between)) (hsame : (earlier == node) = true)
    (hbetween : ∀ other ∈ between, (other == node) = false) :
    answer (.recent capacity) (front ++ earlier :: between) node =
      if between.eraseDups.length < capacity then answer (.recent capacity) front earlier
      else node := by
  obtain ⟨since, hhistory, hcount, hgiven⟩ :=
    reverse_normalizeAll (.recent capacity) front between earlier
  have hrecent := recent_normalizeAll hc hi
  have hsince : ∀ other ∈ since, (other == node) = false := by
    intro other ho
    obtain ⟨given, hg, hog⟩ := hgiven other ho
    rw [BEq.congr_left hog]
    exact hbetween given hg
  have hlast : (answer (.recent capacity) front earlier == node) = true :=
    BEq.trans (beq_of_normalize _ earlier) hsame
  by_cases hlt : between.eraseDups.length < capacity
  · rw [if_pos hlt]
    exact hrecent.answer_of_lt hhistory hsince hlast (by rw [hcount]; exact hlt)
  · rw [if_neg hlt]
    exact hrecent.answer_of_le hhistory hsince hlast (by rw [hcount]; exact Nat.not_lt.1 hlt)

/-- What is given for the first time is handed out. -/
theorem answer_of_new (hc : 0 < capacity) (hi : Instances calls)
    (hnew : ∀ other ∈ calls, (other == node) = false) :
    answer (.recent capacity) calls node = node := by
  apply (recent_normalizeAll hc hi).answer_of_forall
  intro other ho
  obtain ⟨given, hg, hog⟩ :=
    exists_mem_of_forall₂ (forall₂_normalizeAll _ calls) (List.mem_reverse.1 ho)
  rw [BEq.congr_left hog]
  exact hnew given hg

end Calls

/-! ### Beside a pool that keeps all -/

/-- A pool of recent nodes from which none had to go keeps the nodes of one that keeps all. -/
structure Alike (pool full : Pool) : Prop where
  /-- The other pool keeps all. -/
  policy : full.policy = .unbounded
  /-- Both keep the same nodes. -/
  mem_iff : ∀ other, other ∈ pool.kept ↔ other ∈ full.kept

section Alike

variable {capacity : Nat} {history : List Node} {pool full : Pool}

/-- Taking a kept node to the front keeps all nodes. -/
theorem Recent.mem_touch_iff (h : Recent capacity history pool) (hi : Instances history)
    (hn : node ∈ pool.kept) (other : Node) :
    other ∈ (pool.touch node).kept ↔ other ∈ pool.kept := by
  constructor
  · intro ho
    rcases mem_of_mem_touch ho with rfl | ho
    · exact hn
    · exact ho
  · intro ho
    unfold Pool.touch
    rw [h.policy]
    by_cases hid : other.id = node.id
    · obtain rfl := hi other (h.mem_history ho) node (h.mem_history hn) hid
      exact List.mem_cons_self
    · exact List.mem_cons_of_mem _ (List.mem_filter.2 ⟨ho, bne_iff_ne.2 hid⟩)

/-- As long as there is room, a new node is kept beside all others. -/
theorem Recent.mem_keep_iff (h : Recent capacity history pool)
    (hroom : pool.kept.length < capacity) (other : Node) :
    other ∈ (pool.keep node).kept ↔ other = node ∨ other ∈ pool.kept := by
  unfold Pool.keep
  rw [h.policy]
  show other ∈ (node :: pool.kept).take capacity ↔ _
  rw [List.take_of_length_le (by exact hroom), List.mem_cons]

/-- Both pools hand out the same, and stay alike. -/
theorem Alike.step (h : Alike pool full) (hr : Recent capacity history pool)
    (hi : Instances history)
    (hroom : (∀ other ∈ pool.kept, (other == node) = false) → pool.kept.length < capacity) :
    ((normalize node).run pool).1 = ((normalize node).run full).1 ∧
      Alike ((normalize node).run pool).2 ((normalize node).run full).2 := by
  have hfind := hr.apart.find?_congr h.mem_iff node
  cases hf : pool.kept.find? (· == node) with
  | some known =>
    have hfull : full.touch known = full := by
      unfold Pool.touch
      rw [h.policy]
    rw [run_normalize_of_some hf, run_normalize_of_some (hfind ▸ hf), hfull]
    refine ⟨rfl, h.policy, ?_⟩
    intro other
    rw [hr.mem_touch_iff hi (List.mem_of_find?_eq_some hf), h.mem_iff]
  | none =>
    have hfull : full.keep node = { full with kept := full.kept ++ [node] } := by
      unfold Pool.keep
      rw [h.policy]
    have hnew : ∀ other ∈ pool.kept, (other == node) = false := by
      intro other ho
      exact Bool.eq_false_iff.2 (List.find?_eq_none.1 hf other ho)
    rw [run_normalize_of_none hf, run_normalize_of_none (hfind ▸ hf), hfull]
    refine ⟨rfl, h.policy, ?_⟩
    intro other
    rw [hr.mem_keep_iff (hroom hnew), h.mem_iff, List.mem_append, List.mem_singleton, or_comm]

/-- If no node ever has to go, the pool hands out what one that keeps all does. -/
theorem alike_normalizeAll (hc : 0 < capacity) (hi : Instances calls)
    (hcount : calls.eraseDups.length ≤ capacity) :
    (normalizeAll (.recent capacity) calls).1 = (normalizeAll .unbounded calls).1 ∧
      Alike (normalizeAll (.recent capacity) calls).2 (normalizeAll .unbounded calls).2 := by
  induction calls using List.reverseRecOn with
  | nil => exact ⟨rfl, rfl, fun _ => Iff.rfl⟩
  | append_singleton calls node ih =>
    have hsub : ∀ other ∈ calls, other ∈ calls ++ [node] :=
      fun _ => List.mem_append_left [node]
    have hcalls : Instances calls := hi.of_subset hsub
    have hless : calls.eraseDups.length ≤ capacity := by
      refine Nat.le_trans (length_eraseDups_le ?_) hcount
      intro other ho
      exact ⟨other, hsub other ho, BEq.rfl⟩
    obtain ⟨houts, halike⟩ := ih hcalls hless
    have hrecent := recent_normalizeAll hc hcalls
    have hgiven := mem_calls_of_normalizeAll (.recent capacity) calls
    have hhistory : Instances (normalizeAll (.recent capacity) calls).1.reverse := by
      apply hcalls.of_subset
      intro other ho
      exact hgiven.1 other (List.mem_reverse.1 ho)
    -- a new node and the kept ones are apart, and all of them were given
    have hroom : (∀ other ∈ (normalizeAll (.recent capacity) calls).2.kept,
        (other == node) = false) →
          (normalizeAll (.recent capacity) calls).2.kept.length < capacity := by
      intro hnew
      have hapart : Apart (node :: (normalizeAll (.recent capacity) calls).2.kept) := by
        apply List.pairwise_cons.2
        refine ⟨?_, hrecent.apart⟩
        intro other ho
        rw [BEq.comm]
        exact hnew other ho
      refine Nat.lt_of_lt_of_le (Nat.lt_succ_self _) (Nat.le_trans (hapart.length_le ?_) hcount)
      intro other ho
      apply exists_mem_eraseDups
      rcases List.mem_cons.1 ho with rfl | ho
      · exact List.mem_append_right _ (List.mem_singleton_self other)
      · exact hsub other (hgiven.2 other ho)
    obtain ⟨hanswer, hstep⟩ := halike.step hrecent hhistory hroom
    rw [normalizeAll_concat, normalizeAll_concat]
    refine ⟨?_, hstep⟩
    rw [houts]
    exact congrArg (fun last => (normalizeAll .unbounded calls).1 ++ [last]) hanswer

end Alike

/-! ### The list of recent nodes -/

/-- The nodes a pool keeps are those handed out last, without repetition and cut off behind its
    number, and so the ones given last. A call hands out what the latest call for the same node
    did, if fewer different nodes than the number came in between, and the given node otherwise. A
    pool with room for all different nodes hands out what one does that keeps all. Sharing parts
    and messages is calling for new instances of them. -/
theorem normalize_recent {capacity : Nat} {calls : List Node} (hc : 0 < capacity)
    (hi : Instances calls) :
    let behind := normalizeAll (.recent capacity) calls
    List.Forall₂ (fun a b => (a == b) = true) behind.1 calls ∧
      Apart behind.2.kept ∧
      behind.2.kept = behind.1.reverse.eraseDups.take capacity ∧
      List.Forall₂ (fun a b => (a == b) = true) behind.2.kept
        (calls.reverse.eraseDups.take capacity) ∧
      (∀ node front earlier between, calls = front ++ earlier :: between →
        (earlier == node) = true → (∀ other ∈ between, (other == node) = false) →
        answer (.recent capacity) calls node =
          if between.eraseDups.length < capacity then answer (.recent capacity) front earlier
          else node) ∧
      (∀ node, (∀ other ∈ calls, (other == node) = false) →
        answer (.recent capacity) calls node = node) ∧
      (calls.eraseDups.length ≤ capacity → behind.1 = (normalizeAll .unbounded calls).1) ∧
      (∀ pool part,
        let shared := (sharePart part).run pool
        let normal := (normalize (.part ⟨pool.next, part⟩)).run pool
        Node.part shared.1 = normal.1 ∧ shared.2.kept = normal.2.kept) ∧
      ∀ pool message parts,
        let shared := (shareWith message parts).run pool
        let normal := (normalize (.message ⟨pool.next, message, parts⟩)).run pool
        Node.message shared.1 = normal.1 ∧ shared.2.kept = normal.2.kept := by
  intro behind
  have hrecent := recent_normalizeAll hc hi
  have hsame := forall₂_normalizeAll (.recent capacity) calls
  refine ⟨hsame, hrecent.apart, hrecent.kept, ?_, ?_, ?_, ?_, sharePart_eq_normalize,
    shareWith_eq_normalize⟩
  · show List.Forall₂ _ (normalizeAll (.recent capacity) calls).2.kept _
    rw [hrecent.kept]
    exact List.forall₂_take capacity (forall₂_eraseDups (List.rel_reverse hsame))
  · intro node front earlier between hcalls hearlier hbetween
    subst hcalls
    exact answer_of_earlier hc hi hearlier hbetween
  · intro node hnew
    exact answer_of_new hc hi hnew
  · intro hcount
    exact (alike_normalizeAll hc hi hcount).1

/-- Instances of literals are the same if the literals are. -/
theorem literal_beq (a b : Nat) (first second : Literal) :
    (Node.part ⟨a, .literal first⟩ == Node.part ⟨b, .literal second⟩) = (first == second) := by
  show Part.same _ _ = _
  rw [Part.same]

/-- With two places, a text is gone behind two others, and stays behind one. -/
theorem normalize_recent_two :
    let node := fun (id : Nat) (text : String) => Node.part ⟨id, .literal { text }⟩
    let calls := [node 0 "a", node 1 "b", node 2 "a", node 3 "c"]
    0 < 2 ∧ Instances calls ∧ answer (.recent 2) calls (node 4 "b") = node 4 "b" ∧
      answer (.recent 2) calls (node 5 "a") = answer (.recent 2) (calls.take 2) (node 2 "a") := by
  intro node calls
  have hi : Instances calls := Instances.of_nodup (by decide)
  have hanswer := (normalize_recent Nat.two_pos hi).2.2.2.2.1
  have hb := hanswer (node 4 "b") [node 0 "a"] (node 1 "b") [node 2 "a", node 3 "c"] rfl
    (by simp [node, literal_beq]) (by simp [node, literal_beq])
  have ha := hanswer (node 5 "a") [node 0 "a", node 1 "b"] (node 2 "a") [node 3 "c"] rfl
    (by simp [node, literal_beq]) (by simp [node, literal_beq])
  have htwo : [node 2 "a", node 3 "c"].eraseDups.length = 2 := by
    simp [node, literal_beq, List.eraseDups_cons]
  have hone : [node 3 "c"].eraseDups.length = 1 := by
    simp [List.eraseDups_cons]
  rw [htwo, if_neg (Nat.lt_irrefl 2)] at hb
  rw [hone, if_pos Nat.one_lt_two] at ha
  exact ⟨Nat.two_pos, hi, hb, ha⟩

end Pool
end Phrasebook
