import Phrasebook.Message.Sameness

/-!
# Sharing of equal nodes

Messages and parts that are built alike need to exist only once. A pool keeps nodes that were seen
before and hands them out in the place of new ones that are the same. Which nodes it keeps is its
policy: none, all, or a number of those used most recently.

Nodes carry the number of their instance, so that it can be told which of them are shared.
-/

namespace Phrasebook

/-- Which nodes a pool keeps. -/
inductive PoolPolicy where
  /-- None. -/
  | none
  /-- All. -/
  | unbounded
  /-- The ones used most recently, up to a number. -/
  | recent (capacity : Nat)
deriving DecidableEq, Repr, Inhabited

/-- A part with the number of its instance. -/
structure SharedPart where
  /-- Number of the instance. -/
  id : Nat
  /-- The part. -/
  part : Part

/-- A message with the number of its instance. -/
structure SharedMessage where
  /-- Number of the instance. -/
  id : Nat
  /-- The message. -/
  message : Message
  /-- Numbers of the instances of its parts. -/
  parts : List Nat

/-- What a pool keeps. -/
inductive Node where
  /-- A part. -/
  | part (shared : SharedPart)
  /-- A message. -/
  | message (shared : SharedMessage)

namespace Node

/-- Number of the instance. -/
def id : Node → Nat
  | part shared => shared.id
  | message shared => shared.id

/-- The part, if it is the same as a given one. -/
def samePart? (wanted : Part) : Node → Option SharedPart
  | part shared => if shared.part.same wanted then some shared else none
  | message _ => none

/-- The message, if it is the same as a given one. -/
def sameMessage? (wanted : Message) : Node → Option SharedMessage
  | message shared => if shared.message.same wanted then some shared else none
  | part _ => none

/-- Nodes are the same if they are of one kind and what they hold is the same, whatever their
    instances. -/
def same : Node → Node → Bool
  | part a, part b => a.part.same b.part
  | message a, message b => a.message.same b.message
  | part _, message _ | message _, part _ => false

instance : BEq Node := ⟨same⟩

end Node

/-- Nodes seen before. -/
structure Pool where
  /-- Which nodes are kept. -/
  policy : PoolPolicy
  /-- The kept nodes; the most recently used one comes first where that matters. -/
  kept : List Node := []
  /-- Number of the next instance. -/
  next : Nat := 0
  /-- Messages of strings in settings, by the instance of the part and the place among its
      settings. -/
  nested : List ((Nat × Nat) × SharedMessage) := []

namespace Pool

/-- Number of kept nodes. -/
def size (pool : Pool) : Nat := pool.kept.length

/-- Tells whether an instance is kept. -/
def contains (pool : Pool) (id : Nat) : Bool := pool.kept.any (·.id == id)

/-- The pool in which a kept node was used again. -/
def touch (pool : Pool) (node : Node) : Pool :=
  match pool.policy with
  | .recent _ => { pool with kept := node :: pool.kept.filter (·.id != node.id) }
  | .none | .unbounded => pool

/-- The pool in which a new node is kept as far as the policy says. -/
def keep (pool : Pool) (node : Node) : Pool :=
  match pool.policy with
  | .none => pool
  | .unbounded => { pool with kept := pool.kept ++ [node] }
  | .recent capacity => { pool with kept := (node :: pool.kept).take capacity }

/-- A node in the place of the given one: a kept one that is the same, or the given one itself. -/
def normalize (node : Node) : StateM Pool Node := do
  match (← get).kept.find? (· == node) with
  | some known =>
    modify (·.touch known)
    return known
  | none =>
    modify (·.keep node)
    return node

/-- The number of a new instance. -/
def number : StateM Pool Nat := do
  let pool ← get
  set { pool with next := pool.next + 1 }
  return pool.next

/-- A part in the place of the given one: a kept one that is the same, or a new instance. -/
def sharePart (part : Part) : StateM Pool SharedPart := do
  match (← get).kept.findSome? (Node.samePart? part) with
  | some known =>
    modify (·.touch (.part known))
    return known
  | none =>
    let new : SharedPart := ⟨← number, part⟩
    modify (·.keep (.part new))
    return new

/-- A message in the place of the given one, whose parts have instances of their own. -/
def shareWith (message : Message) (parts : List Nat) : StateM Pool SharedMessage := do
  match (← get).kept.findSome? (Node.sameMessage? message) with
  | some known =>
    modify (·.touch (.message known))
    return known
  | none =>
    let new : SharedMessage := ⟨← number, message, parts⟩
    modify (·.keep (.message new))
    return new

/-- Shares a message and its parts. -/
def shareMessage (message : Message) : StateM Pool SharedMessage := do
  match message with
  | .single part =>
    let part ← sharePart part
    shareWith (.single part.part) [part.id]
  | .multiple parts =>
    let parts ← parts.mapM sharePart
    shareWith (.multiple (parts.map SharedPart.part)) (parts.map SharedPart.id)
  | message => shareWith message []

end Pool

end Phrasebook
