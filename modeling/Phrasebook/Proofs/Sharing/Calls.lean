import Phrasebook.Proofs.Sharing.Tree
import Phrasebook.Rendering.Message

/-! # Reading with a pool is reading without

    A pool serves many readers one after another, and programs share nodes of their own with it.
    Whatever it keeps and whatever it was used for, a template says what it says without a pool, and
    a refused template leaves the pool as it is.

    The invariant is `Pool.Faithful`: each call keeps it, so it holds behind every sequence of
    calls. -/

namespace Phrasebook

/-- A call on a pool. Nodes from programs hold strings as programs make them. -/
inductive PoolCall where
  /-- Reads a template. -/
  | parse (source : String)
  /-- Reads a template with a code. -/
  | parseCoded (code source : String)
  /-- Reads localized templates. -/
  | parseLocalized (code : Option String) (templates : List (Locale × String))
  /-- Asks for the message of a string in the settings of a part. -/
  | nested (part place : Nat) (value : SettingValue)
  /-- Shares a part. -/
  | part (part : Part) (built : part.AllQuoted QuotedText.Built)
  /-- Shares a message as one node. -/
  | message (message : Message) (built : message.AllQuoted QuotedText.Built)
  /-- Shares a message and all nodes in it. -/
  | tree (message : Message) (built : message.AllQuoted QuotedText.Built)

namespace Pool

/-- The pool behind a call. -/
def perform (pool : Pool) : PoolCall → Pool
  | .parse source => ((parse source).run.run pool).2
  | .parseCoded code source => ((parseCoded code source).run.run pool).2
  | .parseLocalized code templates => ((parseLocalized code templates).run.run pool).2
  | .nested part place value => ((nestedMessage part place value).run.run pool).2
  | .part part _ => ((sharePart part).run pool).2
  | .message message _ => ((shareWhole message).run pool).2
  | .tree message _ => (message.shareTree.run pool).2

/-- A new pool behind calls. -/
def after (policy : PoolPolicy) (calls : List PoolCall) : Pool := calls.foldl perform { policy }

/-! ### What calls do to a pool -/

theorem run_parse (pool : Pool) (source : String) :
    (parse source).run.run pool =
      match Template.parse source with
      | .error e => (.error e, pool)
      | .ok message => (.ok ((shareMessage message).run pool).1, ((shareMessage message).run pool).2) := by
  unfold parse
  cases Template.parse source <;> rfl

theorem run_nestedMessage (pool : Pool) (part place : Nat) (quoted : QuotedText) :
    (nestedMessage part place (.string quoted)).run.run pool =
      match pool.nested.lookup (part, place) with
      | some known => (.ok known, pool)
      | none =>
        let read := (parse quoted.source).run.run pool
        match read.1 with
        | .error e => (.error e, read.2)
        | .ok shared =>
          (.ok shared, { read.2 with nested := ((part, place), shared) :: read.2.nested }) := by
  show nestedMessage part place (.string quoted) pool = _
  unfold nestedMessage
  show (match pool.nested.lookup (part, place) with
    | some _ => _ | none => _ : ExceptT TemplateError (StateM Pool) _) pool = _
  cases pool.nested.lookup (part, place) with
  | some known => rfl
  | none =>
    show (parse quoted.source >>= fun shared => _ : ExceptT TemplateError (StateM Pool) _).run.run pool = _
    rw [ExceptT.run_bind, StateT.run_bind]
    generalize (parse quoted.source).run.run pool = read
    obtain ⟨result, pool'⟩ := read
    cases result <;> rfl

/-- Messages that are remembered for a part are not among the nodes that are kept. -/
theorem gives_nestedMessage (part place : Nat) (value : SettingValue) :
    Gives (fun _ => True) (nestedMessage part place value).run := by
  intro pool hp
  refine ⟨trivial, ?_⟩
  have hnew (message : Message) : ((newMessage message).run pool).2.Faithful :=
    (gives_newMessage message pool hp).2
  cases value with
  | string quoted =>
    have hread : ((parse quoted.source).run.run pool).2.Faithful :=
      (says_parse quoted.source pool hp).2
    rw [run_nestedMessage]
    cases pool.nested.lookup (part, place) with
    | some known => exact hp
    | none =>
      show (match ((parse quoted.source).run.run pool).1 with
        | .error _ => _ | .ok _ => _ : Except _ _ × Pool).2.Faithful
      cases ((parse quoted.source).run.run pool).1 <;> exact hread
  | bool flag => exact hnew _
  | number n => exact hnew _
  | message message => exact hnew _

/-- No call makes a pool keep a node whose strings are not faithful. -/
theorem Faithful.perform {pool : Pool} (h : pool.Faithful) (call : PoolCall) :
    (pool.perform call).Faithful := by
  cases call with
  | parse source => exact (says_parse source pool h).2
  | parseCoded code source => exact (says_parseCoded code source pool h).2
  | parseLocalized code templates => exact (says_parseLocalized code templates pool h).2
  | nested part place value => exact (gives_nestedMessage part place value pool h).2
  | part part built =>
    have hpart := built.imp fun _ hq => hq.faithful
    exact (gives_sharePart hpart pool h).2
  | message message built =>
    have hmessage := built.imp fun _ hq => hq.faithful
    exact (gives_shareWhole hmessage pool h).2
  | tree message built =>
    have hmessage := built.imp fun _ hq => hq.faithful
    exact (message.gives_shareTree hmessage pool h).2

theorem faithful_after (policy : PoolPolicy) (calls : List PoolCall) :
    (after policy calls).Faithful := by
  suffices h : ∀ pool : Pool, pool.Faithful → (calls.foldl perform pool).Faithful from
    h _ (faithful_new policy)
  induction calls with
  | nil =>
    intro pool hp
    exact hp
  | cons call calls ih =>
    intro pool hp
    exact ih _ (hp.perform call)

/-! ### Templates -/

/-- Behind any calls on a new pool, whatever the pool keeps, a template is read as by a pool that
    keeps nothing: either its message is the same in all fields, the texts of strings included, and
    so it is rendered alike, or the error is the same and the pool is left as it was. -/
theorem parse_after (policy : PoolPolicy) (calls : List PoolCall) (source : String) :
    let pool := after policy calls
    let read := (parse source).run.run pool
    let plain := ((parse source).run.run { policy := .none }).1.map SharedMessage.message
    plain = Template.parse source ∧
    ((∃ shared, read.1 = .ok shared ∧ plain = .ok shared.message) ∨
      ∃ error, read = (.error error, pool) ∧ plain = .error error) ∧
    ∀ context parameters,
      read.1.map (fun shared => render context shared.message parameters) =
        plain.map fun message => render context message parameters := by
  intro pool read plain
  have hread : read.1.map SharedMessage.message = Template.parse source :=
    (says_parse source pool (faithful_after policy calls)).1
  have hplain : plain = Template.parse source := (says_parse source _ (faithful_new .none)).1
  have hrun := run_parse pool source
  change read = _ at hrun
  refine ⟨hplain, ?_, ?_⟩
  · rw [hplain]
    cases hp : Template.parse source with
    | ok message =>
      left
      obtain ⟨shared, hshared, hmessage⟩ := exists_of_map_eq_ok (hread.trans hp)
      exact ⟨shared, hshared, congrArg Except.ok hmessage.symm⟩
    | error error =>
      right
      rw [hp] at hrun
      exact ⟨error, hrun, rfl⟩
  · intro context parameters
    rw [hplain, ← hread]
    cases read.1 <;> rfl

end Pool

end Phrasebook
