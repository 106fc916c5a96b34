import Phrasebook.Proofs.Message.Sameness
import Phrasebook.Proofs.Template.Messages
import Phrasebook.Sharing.Reading

/-! # A pool hands out what it is given

    A pool finds a kept node by sameness, which passes over what strings stand for. The node that it
    hands out is the wanted one all the same, as long as no string in a kept node stands for
    anything but what its source does:

    * `Pool.Faithful`: all kept nodes are so. Every step that is given such nodes keeps it.
    * `Pool.Gives`: what a step gives with such a pool, and that it leaves such a pool behind. -/

namespace Phrasebook

/-! ### Kept nodes -/

/-- Every string in the node stands for what its source does. -/
def Node.Faithful : Node → Prop
  | .part shared => shared.part.AllQuoted QuotedText.Faithful
  | .message shared => shared.message.AllQuoted QuotedText.Faithful

/-- A kept part that is found is the wanted one. -/
theorem Node.eq_of_samePart? {wanted : Part} {node : Node} {shared : SharedPart}
    (hn : node.Faithful) (hw : wanted.AllQuoted QuotedText.Faithful)
    (h : node.samePart? wanted = some shared) : node = .part shared ∧ shared.part = wanted := by
  cases node with
  | message _ => simp [samePart?] at h
  | part known =>
    rw [samePart?] at h
    split at h
    · rename_i hsame
      obtain rfl := Option.some.inj h
      exact ⟨rfl, Part.eq_of_same hn hw hsame⟩
    · cases h

/-- A kept message that is found is the wanted one. -/
theorem Node.eq_of_sameMessage? {wanted : Message} {node : Node} {shared : SharedMessage}
    (hn : node.Faithful) (hw : wanted.AllQuoted QuotedText.Faithful)
    (h : node.sameMessage? wanted = some shared) :
    node = .message shared ∧ shared.message = wanted := by
  cases node with
  | part _ => simp [sameMessage?] at h
  | message known =>
    rw [sameMessage?] at h
    split at h
    · rename_i hsame
      obtain rfl := Option.some.inj h
      exact ⟨rfl, Message.eq_of_same hn hw hsame⟩
    · cases h

namespace Pool

/-- Every kept node is faithful. -/
def Faithful (pool : Pool) : Prop := ∀ node ∈ pool.kept, node.Faithful

variable {pool : Pool} {node : Node}

/-- A new pool keeps nothing. -/
theorem faithful_new (policy : PoolPolicy) : Faithful { policy } := by
  intro node h
  cases h

theorem Faithful.touch (h : pool.Faithful) (hn : node.Faithful) : (pool.touch node).Faithful := by
  unfold Pool.touch
  split
  · intro other ho
    rcases List.mem_cons.1 ho with rfl | ho
    · exact hn
    · exact h other (List.mem_filter.1 ho).1
  · exact h
  · exact h

theorem Faithful.keep (h : pool.Faithful) (hn : node.Faithful) : (pool.keep node).Faithful := by
  unfold Pool.keep
  split
  · exact h
  · intro other ho
    rcases List.mem_append.1 ho with ho | ho
    · exact h other ho
    · obtain rfl := List.mem_singleton.1 ho
      exact hn
  · intro other ho
    -- the nodes that are dropped for want of room do not matter
    rcases List.mem_cons.1 (List.mem_of_mem_take ho) with rfl | ho
    · exact hn
    · exact h other ho

/-! ### Steps -/

section Gives

variable {α β : Type} {wanted : α → Prop} {wanted' : β → Prop}

/-- With a faithful pool the step gives what is wanted, and the pool stays faithful. -/
def Gives (wanted : α → Prop) (step : StateM Pool α) : Prop :=
  ∀ pool : Pool, pool.Faithful → wanted (step.run pool).1 ∧ (step.run pool).2.Faithful

theorem gives_pure {a : α} (h : wanted a) : Gives wanted (pure a) := by
  intro pool hp
  exact ⟨h, hp⟩

theorem Gives.bind {step : StateM Pool α} {next : α → StateM Pool β} (h : Gives wanted step)
    (hnext : ∀ a, wanted a → Gives wanted' (next a)) : Gives wanted' (step >>= next) := by
  intro pool hp
  obtain ⟨ha, hpool⟩ := h pool hp
  exact hnext _ ha _ hpool

theorem Gives.imp {step : StateM Pool α} {weaker : α → Prop} (h : Gives wanted step)
    (himp : ∀ a, wanted a → weaker a) : Gives weaker step := by
  intro pool hp
  obtain ⟨ha, hpool⟩ := h pool hp
  exact ⟨himp _ ha, hpool⟩

/-- Steps for the elements of a list give a list of what they give. -/
theorem gives_mapM {as : List α} {step : α → StateM Pool β} {f : β → α}
    (h : ∀ a ∈ as, Gives (fun b => f b = a) (step a)) :
    Gives (fun bs => bs.map f = as) (as.mapM step) := by
  induction as with
  | nil => exact gives_pure rfl
  | cons a as ih =>
    rw [List.mapM_cons]
    have ha := h a List.mem_cons_self
    have has := ih fun b hb => h b (List.mem_cons_of_mem a hb)
    apply ha.bind
    intro b hb
    apply has.bind
    intro bs hbs
    apply gives_pure
    rw [List.map_cons, hb, hbs]

end Gives

theorem run_sharePart (pool : Pool) (part : Part) :
    (sharePart part).run pool =
      match pool.kept.findSome? (Node.samePart? part) with
      | some known => (known, pool.touch (.part known))
      | none => (⟨pool.next, part⟩, { pool with next := pool.next + 1 }.keep (.part ⟨pool.next, part⟩)) := by
  show sharePart part pool = _
  unfold sharePart
  show (match pool.kept.findSome? (Node.samePart? part) with
    | some _ => _ | none => _ : StateM _ _) pool = _
  cases pool.kept.findSome? (Node.samePart? part) <;> rfl

theorem run_shareWith (pool : Pool) (message : Message) (parts : List Nat) :
    (shareWith message parts).run pool =
      match pool.kept.findSome? (Node.sameMessage? message) with
      | some known => (known, pool.touch (.message known))
      | none =>
        (⟨pool.next, message, parts⟩,
          { pool with next := pool.next + 1 }.keep (.message ⟨pool.next, message, parts⟩)) := by
  show shareWith message parts pool = _
  unfold shareWith
  show (match pool.kept.findSome? (Node.sameMessage? message) with
    | some _ => _ | none => _ : StateM _ _) pool = _
  cases pool.kept.findSome? (Node.sameMessage? message) <;> rfl

/-- What is handed out for a part is the part. -/
theorem gives_sharePart {part : Part} (h : part.AllQuoted QuotedText.Faithful) :
    Gives (fun shared => shared.part = part) (sharePart part) := by
  intro pool hp
  rw [run_sharePart]
  cases hf : pool.kept.findSome? (Node.samePart? part) with
  | none =>
    refine ⟨rfl, ?_⟩
    have hnext : Faithful { pool with next := pool.next + 1 } := hp
    exact hnext.keep h
  | some known =>
    obtain ⟨node, hn, hs⟩ := List.exists_of_findSome?_eq_some hf
    obtain ⟨rfl, hpart⟩ := Node.eq_of_samePart? (hp node hn) h hs
    exact ⟨hpart, hp.touch (hp _ hn)⟩

/-- What is handed out for a message is the message. -/
theorem gives_shareWith {message : Message} (h : message.AllQuoted QuotedText.Faithful)
    (parts : List Nat) : Gives (fun shared => shared.message = message) (shareWith message parts) := by
  intro pool hp
  rw [run_shareWith]
  cases hf : pool.kept.findSome? (Node.sameMessage? message) with
  | none =>
    refine ⟨rfl, ?_⟩
    have hnext : Faithful { pool with next := pool.next + 1 } := hp
    exact hnext.keep h
  | some known =>
    obtain ⟨node, hn, hs⟩ := List.exists_of_findSome?_eq_some hf
    obtain ⟨rfl, hmessage⟩ := Node.eq_of_sameMessage? (hp node hn) h hs
    exact ⟨hmessage, hp.touch (hp _ hn)⟩

/-- Sharing a message and its parts leaves it what it is. -/
theorem gives_shareMessage {message : Message} (h : message.AllQuoted QuotedText.Faithful) :
    Gives (fun shared => shared.message = message) (shareMessage message) := by
  cases message with
  | single part =>
    have hpart := gives_sharePart (Message.allQuoted_single.1 h)
    apply hpart.bind
    rintro shared rfl
    exact gives_shareWith h _
  | multiple parts =>
    have hparts := gives_mapM fun part hp => gives_sharePart (Message.allQuoted_multiple.1 h part hp)
    apply hparts.bind
    rintro shared rfl
    exact gives_shareWith h _
  | empty | localized _ | coded _ _ => exact gives_shareWith h []

/-- New instances leave the kept nodes alone. -/
theorem gives_number : Gives (fun _ => True) number := by
  intro pool hp
  exact ⟨trivial, hp⟩

theorem gives_numberParts (message : Message) : Gives (fun _ => True) (numberParts message) := by
  show Gives _ (message.parts.mapM fun _ => number)
  induction message.parts with
  | nil => exact gives_pure trivial
  | cons part parts ih =>
    rw [List.mapM_cons]
    apply gives_number.bind
    intro n _
    apply ih.bind
    intro ns _
    exact gives_pure trivial

theorem gives_shareWhole {message : Message} (h : message.AllQuoted QuotedText.Faithful) :
    Gives (fun shared => shared.message = message) (shareWhole message) := by
  apply (gives_numberParts message).bind
  intro parts _
  exact gives_shareWith h parts

theorem gives_newMessage (message : Message) :
    Gives (fun shared => shared.message = message) (newMessage message) := by
  apply (gives_numberParts message).bind
  intro parts _
  apply gives_number.bind
  intro n _
  exact gives_pure rfl

end Pool

/-! ### Reading templates -/

namespace Pool

section Says

variable {ε ε' α β α' β' : Type} {f : α → β} {g : α' → β'}

/-- With a faithful pool the reader says what is given, instances aside, and the pool stays
    faithful. -/
def Says (f : α → β) (result : Except ε β) (reader : ExceptT ε (StateM Pool) α) : Prop :=
  Gives (fun read => read.map f = result) reader.run

theorem says_pure (a : α) : Says f (.ok (f a) : Except ε β) (pure a) := gives_pure rfl

/-- What needs no pool says the same in one. -/
theorem says_lift (result : Except ε α) : Says id result (liftM result) := by
  apply gives_pure
  cases result <;> rfl

theorem says_ok {step : StateM Pool α} {b : β} (h : Gives (fun a => f a = b) step) :
    Says f (.ok b : Except ε β) (liftM step) := by
  intro pool hp
  obtain ⟨ha, hpool⟩ := h pool hp
  exact ⟨congrArg Except.ok ha, hpool⟩

theorem Says.bind {result : Except ε β} {next : β → Except ε β'}
    {reader : ExceptT ε (StateM Pool) α} {more : α → ExceptT ε (StateM Pool) α'}
    (h : Says f result reader) (hmore : ∀ a, result = .ok (f a) → Says g (next (f a)) (more a)) :
    Says g (result >>= next) (reader >>= more) := by
  unfold Says
  rw [ExceptT.run_bind]
  apply Gives.bind h
  rintro read rfl
  cases read with
  | error e => exact gives_pure rfl
  | ok a => exact hmore a rfl

/-- Sharing in between changes nothing of what is said. -/
theorem Says.share {result : Except ε β} {step : StateM Pool α'} {more : α' → ExceptT ε (StateM Pool) α}
    {wanted : α' → Prop} (h : Gives wanted step) (hmore : ∀ a, wanted a → Says f result (more a)) :
    Says f result (liftM step >>= more) :=
  Gives.bind h hmore

/-- A change to the error is the same for both. -/
theorem Says.adapt {result : Except ε β} {reader : ExceptT ε (StateM Pool) α}
    (h : Says f result reader) (change : ε → ε') :
    Says f (result.mapError change) (reader.adapt change) := by
  intro pool hp
  obtain ⟨hread, hpool⟩ := h pool hp
  refine ⟨?_, hpool⟩
  rw [← hread]
  show Except.map f (Except.mapError change (reader.run.run pool).1) = _
  cases (reader.run.run pool).1 <;> rfl

/-- What is read in a faithful pool is what is said. -/
theorem Says.eq_ok {result : Except ε β} {reader : ExceptT ε (StateM Pool) α} {pool : Pool} {a : α}
    (h : Says f result reader) (hp : pool.Faithful) (hread : (reader.run.run pool).1 = .ok a) :
    result = .ok (f a) := by
  rw [← (h pool hp).1]
  exact congrArg (Except.map f) hread

/-- What is said is read in every faithful pool. -/
theorem Says.exists_ok {result : Except ε β} {reader : ExceptT ε (StateM Pool) α} {pool : Pool}
    {b : β} (h : Says f result reader) (hp : pool.Faithful) (hb : result = .ok b) :
    ∃ a, (reader.run.run pool).1 = .ok a ∧ f a = b :=
  exists_of_map_eq_ok ((h pool hp).1.trans hb)

end Says

/-- A template is read with a pool as without. -/
theorem says_parse (source : String) :
    Says SharedMessage.message (Template.parse source) (parse source) := by
  have hread : Template.parse source = (Template.parse source >>= .ok) := by
    cases Template.parse source <;> rfl
  rw [hread]
  unfold parse
  apply (says_lift (Template.parse source)).bind
  intro message hm
  exact says_ok (gives_shareMessage (Template.allQuoted_of_parse hm))

theorem says_parseCoded (code source : String) :
    Says SharedMessage.message (Template.parseCoded code source) (parseCoded code source) := by
  have hread : Template.parseCoded code source =
      ((Template.parse source).mapError (·.withCode code) >>= fun message =>
        .ok (.coded code message)) := by
    rw [Template.parseCoded]
    cases Template.parse source <;> rfl
  rw [hread]
  unfold parseCoded
  apply (says_lift _).bind
  intro message hm
  have hfaithful := Template.allQuoted_of_parse (eq_ok_of_mapError_eq_ok hm)
  apply Says.share (gives_shareMessage hfaithful)
  rintro inner rfl
  exact says_ok (gives_shareWith (Message.allQuoted_coded.2 hfaithful) [])

/-- Variants are read with a pool as without, up to the first one that is refused. -/
theorem says_parseVariants (code : Option String) (templates : List (Locale × String)) :
    Says id (Template.parseVariants code templates) (parseVariants code templates) := by
  induction templates with
  | nil => exact says_pure []
  | cons template templates ih =>
    obtain ⟨locale, source⟩ := template
    unfold Template.parseVariants parseVariants
    apply (says_lift (Template.parseVariant code locale source)).bind
    intro message hm
    have hfaithful := Template.allQuoted_of_parse (eq_ok_of_mapError_eq_ok hm)
    apply Says.share (gives_shareMessage hfaithful)
    rintro shared rfl
    apply ih.bind
    intro variants _
    exact says_pure _

theorem says_parseLocalized (code : Option String) (templates : List (Locale × String)) :
    Says SharedMessage.message (Template.parseLocalized code templates)
      (parseLocalized code templates) := by
  have hread : Template.parseLocalized code templates =
      (Template.parseVariants code templates >>= fun variants =>
        .ok (code.elim (Template.ofVariants variants) fun code =>
          .coded code (Template.ofVariants variants))) := by
    rw [Template.parseLocalized]
    cases Template.parseVariants code templates <;> cases code <;> rfl
  rw [hread]
  unfold parseLocalized
  apply (says_parseVariants code templates).bind
  intro variants hv
  rw [id] at hv
  have hfaithful : (Template.ofVariants variants).AllQuoted QuotedText.Faithful := by
    obtain ⟨hall, hvariants⟩ := Template.parseVariants_eq_ok_iff.1 hv
    unfold Template.ofVariants
    split
    · exact Message.allQuoted_empty
    · rw [Message.allQuoted_localized]
      intro variant hm
      rw [hvariants] at hm
      obtain ⟨template, ht, rfl⟩ := List.mem_map.1 hm
      exact Template.allQuoted_of_parse (hall template ht)
  cases code with
  | none => exact says_ok (gives_shareWith hfaithful [])
  | some code => exact says_ok (gives_shareWith (Message.allQuoted_coded.2 hfaithful) [])

end Pool

end Phrasebook
