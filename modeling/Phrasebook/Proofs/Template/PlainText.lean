import Phrasebook.Proofs.Template.Parsing
import Phrasebook.Proofs.Text.Words
import Phrasebook.Template.Nesting

/-! # Escaped text says itself

    Whatever a text contains, there are two ways to write it that templates read as text: with the
    escapes that belong inside of quotes, and with those that belong outside of placeholders. Nothing
    in it is read as a placeholder or as an escape sequence. Only its whitespace is not kept: a
    template says the words. -/

namespace Phrasebook

/-! ### Messages of words -/

namespace Message

/-- The words of a text, with flags for whitespace at its ends; nothing if it has no words. -/
def ofWords (text : String) : Message :=
  if text.toList.all isWhitespace then .empty else .single (.literal (.ofWords text.toList))

theorem ofParts_ofWords (text : String) :
    ofParts [.literal (.ofWords text.toList)] = ofWords text := by
  rw [ofParts_literal, ofWords]
  simp only [Literal.isEmpty_ofWords]

/-- Words are no placeholders. -/
theorem placeholders_ofWords (text : String) : (ofWords text).placeholders = [] := by
  unfold ofWords
  split <;> rfl

end Message

namespace Template

/-! ### Reading text -/

/-- A template without characters says nothing. -/
theorem parse_empty : parse "" = .ok .empty := by
  let tree : TemplateTree := ⟨[], ⟨⟨.eof, 0, 0, ""⟩, rfl⟩⟩
  have htokens : tokenize "" = .ok tree.tokens := scanTokens_of_end rfl
  have hdistinct : tree.Distinct := fun item hi => absurd hi List.not_mem_nil
  exact parse_eq_ok_iff.2 (parse?_eq_ok_iff.2 ⟨tree, htokens, hdistinct, rfl⟩)

/-- However a text is written, the template says its words. -/
theorem parse_of_spelled {source text : String} (h : Spelled [] source.toList text.toList) :
    parse source = .ok (.ofWords text) := by
  by_cases ht : text.toList = []
  · have hsource : source = "" := by
      rw [ht] at h
      exact String.toList_eq_nil_iff.1 h.eq_nil
    rw [hsource, parse_empty, Message.ofWords, ht]
    rfl
  · have hne : ¬ source.toList.isEmpty = true := by simpa using h.ne_nil ht
    have hstep := scanTextStep_of_spelled source.length (.inl rfl) h ht
    rw [List.append_nil, Literal.scanned_eq_ofWords] at hstep
    rw [← Message.ofParts_ofWords]
    apply parse_of_scanStep_text
    rw [scanStep, if_neg hne, hstep, Except.map, Token.between, String.length_toList, Nat.sub_self]
    rfl

/-! ### Escaped text -/

/-- Escaped text is inert: whatever the text contains, its escapes are resolved to it again, and a
    template that consists of it says its words, however it was escaped. So a string that is made of a
    text is read as a message without placeholders. -/
theorem parse_escape (text : String) :
    unescape (escape text) = text ∧
      parse (escape text) = .ok (.ofWords text) ∧
      parse (escapeLiteral text) = .ok (.ofWords text) ∧
      (SettingValue.string (.ofText text)).toMessage = .ok (.ofWords text) ∧
      (Message.ofWords text).placeholders = [] ∧ (Message.ofWords text).parameterNames = [] := by
  have hescape : parse (escape text) = .ok (.ofWords text) := by
    apply parse_of_spelled
    rw [escape, String.toList_ofList]
    exact spelled_escapeChars [] text.toList
  have hliteral : parse (escapeLiteral text) = .ok (.ofWords text) := by
    apply parse_of_spelled
    rw [escapeLiteral, String.toList_ofList]
    exact spelled_escapeLiteralChars (.inl rfl) text.toList
  have hplaces := Message.placeholders_ofWords text
  refine ⟨unescape_escape text, hescape, hliteral, hescape, hplaces, ?_⟩
  rw [Message.parameterNames, hplaces, List.map_nil, sortNames, List.mergeSort_nil]
  rfl

end Template

end Phrasebook
