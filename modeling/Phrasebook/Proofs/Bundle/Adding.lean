import Mathlib.Data.List.Induction
import Mathlib.Data.List.Nodup
import Phrasebook.Bundle
import Phrasebook.Proofs.Results

/-! # Adding messages to bundles

    A bundle grows at its end, and no code is taken twice. Messages that are added under their own
    codes make exactly the bundles that list them under these codes. -/

namespace Phrasebook

namespace Bundle

variable {bundle next : Bundle} {code : String} {message : Message} {messages : List Message}

/-- Every message carries the code that it is listed under. -/
def Own (bundle : Bundle) : Prop := ∀ entry ∈ bundle.messages, entry.2.code? = some entry.1

/-- A bundle has no message for the codes that it does not list. -/
theorem get?_eq_none_iff : bundle.get? code = none ↔ code ∉ bundle.codes := by
  rw [get?, List.lookup_eq_none_iff, codes, List.mem_map]
  constructor
  · rintro h ⟨entry, he, rfl⟩
    exact absurd (h entry he) (by simp)
  · intro h entry he
    rw [bne_iff_ne]
    rintro rfl
    exact h ⟨entry, he, rfl⟩

/-! ### One message -/

theorem insert_eq_ok_iff :
    bundle.insert code message = .ok next ↔
      code ∉ bundle.codes ∧ next = ⟨bundle.messages ++ [(code, message)]⟩ := by
  rw [insert, ← get?_eq_none_iff]
  cases bundle.get? code with
  | none => simp [eq_comm]
  | some known => simp

theorem add_eq_ok_iff :
    bundle.add message = .ok next ↔
      ∃ code, message.code? = some code ∧ bundle.insert code message = .ok next := by
  rw [add]
  cases message.code? with
  | none => simp
  | some code => simp

/-- What a bundle is behind one more message. -/
theorem own_concat_iff :
    Own ⟨bundle.messages ++ [(code, message)]⟩ ↔ bundle.Own ∧ message.code? = some code := by
  simp only [Own, List.forall_mem_append, List.forall_mem_singleton]

theorem nodup_codes_concat_iff :
    (codes ⟨bundle.messages ++ [(code, message)]⟩).Nodup ↔
      bundle.codes.Nodup ∧ code ∉ bundle.codes := by
  rw [codes, List.map_append, List.map_singleton, ← List.concat_eq_append, List.nodup_concat,
    and_comm]
  rfl

/-! ### Many messages -/

theorem ofMessages_concat (messages : List Message) (message : Message) :
    ofMessages (messages ++ [message]) = (ofMessages messages >>= (·.add message)) := by
  unfold ofMessages
  rw [List.foldlM_append]
  congr 1
  funext bundle
  exact bind_pure _

/-- Messages make the bundle that lists them, if its codes are their own and do not repeat. -/
theorem ofMessages_eq_ok_iff :
    ofMessages messages = .ok bundle ↔
      bundle.messages.map Prod.snd = messages ∧ bundle.Own ∧ bundle.codes.Nodup := by
  induction messages using List.reverseRecOn generalizing bundle with
  | nil =>
    constructor
    · intro h
      obtain rfl := Except.ok.inj h
      exact ⟨rfl, fun _ he => absurd he List.not_mem_nil, List.nodup_nil⟩
    · intro h
      obtain ⟨entries⟩ := bundle
      obtain rfl := List.map_eq_nil_iff.1 h.1
      rfl
  | append_singleton messages message ih =>
    rw [ofMessages_concat]
    constructor
    · intro h
      obtain ⟨front, hfront, hadd⟩ := exists_of_bind_eq_ok h
      obtain ⟨hmessages, hown, hnodup⟩ := ih.1 hfront
      obtain ⟨code, hcode, hinsert⟩ := add_eq_ok_iff.1 hadd
      obtain ⟨hnew, rfl⟩ := insert_eq_ok_iff.1 hinsert
      refine ⟨?_, own_concat_iff.2 ⟨hown, hcode⟩, nodup_codes_concat_iff.2 ⟨hnodup, hnew⟩⟩
      rw [List.map_append, hmessages]
      rfl
    · rintro ⟨hmessages, hown, hnodup⟩
      obtain ⟨entries⟩ := bundle
      obtain ⟨front, last, rfl, hfront, hlast⟩ := List.map_eq_append_iff.1 hmessages
      obtain ⟨⟨code, other⟩, rfl, rfl⟩ := List.map_eq_singleton_iff.1 hlast
      obtain ⟨hown, hcode⟩ := own_concat_iff.1 hown
      obtain ⟨hnodup, hnew⟩ := nodup_codes_concat_iff.1 hnodup
      rw [ih.2 ⟨hfront, hown, hnodup⟩]
      exact add_eq_ok_iff.2 ⟨code, hcode, insert_eq_ok_iff.2 ⟨hnew, rfl⟩⟩

end Bundle

end Phrasebook
