import Mathlib.Data.List.Chain
import Phrasebook.Message.Basic

/-! # Messages as trees

    Below a message stand its variants, the message that its code is for, and the messages among the
    settings of its placeholders; strings that are read as templates only later do not count. Two
    views of such a tree are kept apart:

    * `Within`: how many messages lie on a path from the root down;
    * `Everywhere`: what holds of every message of the tree. -/

namespace Phrasebook

/-- The message that a value is. -/
def SettingValue.message? : SettingValue → Option Message
  | .message inner => some inner
  | _ => none

/-- The messages among the settings of a part. -/
def Part.inners : Part → List Message
  | .literal _ => []
  | .placeholder place => place.settings.values.filterMap SettingValue.message?

namespace Message

/-- The messages right below a message. -/
def inners : Message → List Message
  | .localized variants => variants.map Prod.snd
  | .coded _ message => [message]
  | message => message.parts.flatMap Part.inners

/-- At most `limit` messages lie on any path from the message down. -/
def Within : (limit : Nat) → Message → Prop
  | 0, _ => False
  | limit + 1, message => ∀ inner ∈ message.inners, inner.Within limit

/-- The condition holds of every message of the tree. -/
inductive Everywhere (p : Message → Prop) : Message → Prop
  /-- It holds of the root and everywhere below it. -/
  | intro {message : Message} (here : p message)
      (inners : ∀ inner ∈ message.inners, inner.Everywhere p) : message.Everywhere p

/-! ## Paths -/

theorem Within.mono {limit more : Nat} {message : Message} (h : message.Within limit)
    (hle : limit ≤ more) : message.Within more := by
  induction limit generalizing message more with
  | zero => exact absurd h id
  | succ limit ih =>
    obtain ⟨more, rfl⟩ : ∃ k, more = k + 1 := ⟨more - 1, by omega⟩
    intro inner hi
    exact ih (h inner hi) (by omega)

/-- A path is a list of messages each of which stands right below the one in front of it. `Within`
    bounds the length of every path that begins at the message. -/
theorem within_iff_path {limit : Nat} {message : Message} :
    message.Within limit ↔
      ∀ path : List Message, (message :: path).IsChain (fun outer inner => inner ∈ outer.inners) →
        (message :: path).length ≤ limit := by
  induction limit generalizing message with
  | zero =>
    constructor
    · exact fun h => absurd h id
    · intro h
      exact absurd (h [] (List.isChain_singleton message)) (by simp)
  | succ limit ih =>
    constructor
    · intro h path hpath
      cases path with
      | nil => simp
      | cons inner path =>
        -- behind its first message the path is one of `inner`, with one message less to spend
        obtain ⟨hi, hrest⟩ := List.isChain_cons_cons.1 hpath
        have := ih.1 (h inner hi) path hrest
        simp only [List.length_cons] at this ⊢
        omega
    · intro h inner hi
      refine ih.2 fun path hpath => ?_
      have := h (inner :: path) (List.isChain_cons_cons.2 ⟨hi, hpath⟩)
      simp only [List.length_cons] at this ⊢
      omega

/-! ## Conditions -/

namespace Everywhere

variable {p q : Message → Prop} {message : Message}

theorem here (h : message.Everywhere p) : p message := by
  cases h
  assumption

theorem inners (h : message.Everywhere p) : ∀ inner ∈ message.inners, inner.Everywhere p := by
  cases h
  assumption

theorem imp (hpq : ∀ m, p m → q m) (h : message.Everywhere p) : message.Everywhere q := by
  induction h with
  | intro here _ ih => exact ⟨hpq _ here, ih⟩

theorem iff : message.Everywhere p ↔ p message ∧ ∀ inner ∈ message.inners, inner.Everywhere p :=
  ⟨fun h => ⟨h.here, h.inners⟩, fun h => ⟨h.1, h.2⟩⟩

/-- Without messages below it only the root counts. -/
theorem of_inners_eq_nil (hp : p message) (hb : message.inners = []) : message.Everywhere p :=
  ⟨hp, by simp [hb]⟩

end Everywhere

end Message

end Phrasebook
