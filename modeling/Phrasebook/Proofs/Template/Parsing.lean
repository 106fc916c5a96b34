import Phrasebook.Proofs.Template.Uniqueness
import Phrasebook.Template.Compile

/-! # Templates are what the grammar derives

    A template is read if its source is scanned and a tree with distinct keys derives the tokens.
    There is one such tree at most, and the message is the one that it stands for. -/

namespace Phrasebook

namespace Template

theorem parse_eq_ok_iff {source : String} {message : Message} :
    parse source = .ok message ↔ parse? source = .ok message := by
  rw [parse]
  cases parse? source <;> simp

/-- Reading a template is finding its derivation. -/
theorem parse?_eq_ok_iff {source : String} {message : Message} :
    parse? source = .ok message ↔
      ∃ tree : TemplateTree,
        tokenize source = .ok tree.tokens ∧ tree.Distinct ∧ message = tree.message := by
  rw [parse?]
  cases ht : tokenize source with
  | error e => simp
  | ok tokens =>
    have hs := isScanned_of_tokenize ht
    constructor
    · intro h
      obtain ⟨parts, hr, hmessage⟩ := exists_of_map_eq_ok h
      obtain ⟨tree, rfl, hd, rfl⟩ := (readParts_eq_ok_iff hs).1 hr
      exact ⟨tree, rfl, hd, hmessage.symm⟩
    · rintro ⟨tree, htokens, hd, rfl⟩
      have hr := (readParts_eq_ok_iff hs).2 ⟨tree, Except.ok.inj htokens, hd, rfl⟩
      simp only [hr, Except.map]
      rfl

/-- A template that is scanned as one text consists of it. -/
theorem parse_of_scanStep_text {source text : String} {before after : Bool}
    (hstep : scanStep source.length .text source.toList =
      .ok (some ⟨[⟨.text before after, 0, source.length, text⟩], .text, []⟩)) :
    parse source = .ok (.ofParts [.literal ⟨text, before, after⟩]) := by
  let token : Token := ⟨.text before after, 0, source.length, text⟩
  let tree : TemplateTree :=
    ⟨[.text token before after rfl], ⟨⟨.eof, source.length, source.length, ""⟩, rfl⟩⟩
  have htokens : tokenize source = .ok tree.tokens :=
    scanTokens_of_step _ hstep (scanTokens_of_end rfl)
  have hdistinct : tree.Distinct := List.forall_mem_singleton.2 trivial
  exact parse_eq_ok_iff.2 (parse?_eq_ok_iff.2 ⟨tree, htokens, hdistinct, rfl⟩)

/-- A template that is scanned as one text says the text. -/
theorem parse_of_scanStep {source text : String} (hne : text.isEmpty = false)
    (hstep : scanStep source.length .text source.toList =
      .ok (some ⟨[⟨.text false false, 0, source.length, text⟩], .text, []⟩)) :
    parse source = .ok (.single (.literal { text })) := by
  rw [parse_of_scanStep_text hstep, Message.ofParts_literal, if_neg (by simp [hne])]

/-- A template is accepted if and only if its tokens have a derivation with distinct keys; the
    derivation of tokens is unique, and the message is what it stands for. -/
theorem parse_iff_derivation (source : String) :
    ((∃ message, parse source = .ok message) ↔
      ∃ tree : TemplateTree, tokenize source = .ok tree.tokens ∧ tree.Distinct) ∧
    ∀ tree : TemplateTree, tokenize source = .ok tree.tokens →
      (∀ other : TemplateTree, tokenize source = .ok other.tokens → other = tree) ∧
      (tree.Distinct → parse source = .ok tree.message) := by
  have hparse (tree : TemplateTree) (ht : tokenize source = .ok tree.tokens) (hd : tree.Distinct) :
      parse source = .ok tree.message :=
    parse_eq_ok_iff.2 (parse?_eq_ok_iff.2 ⟨tree, ht, hd, rfl⟩)
  refine ⟨⟨?_, ?_⟩, fun tree ht => ⟨fun other ho => ?_, hparse tree ht⟩⟩
  · rintro ⟨message, h⟩
    obtain ⟨tree, ht, hd, -⟩ := parse?_eq_ok_iff.1 (parse_eq_ok_iff.1 h)
    exact ⟨tree, ht, hd⟩
  · rintro ⟨tree, ht, hd⟩
    exact ⟨tree.message, hparse tree ht hd⟩
  · exact TemplateTree.eq_of_tokens_eq (Except.ok.inj (ho.symm.trans ht))

/-- A placeholder with an entry, behind which a comma stands. -/
theorem parse_iff_derivation_place : ∃ tree : TemplateTree,
    tokenize "%\x7bn,9:7,\x7d" = .ok tree.tokens ∧ tree.Distinct ∧
      parse "%\x7bn,9:7,\x7d" = .ok tree.message := by
  let entry : EntryTree :=
    .keyed (.number none ⟨.number 9, 4, 5, "9"⟩ 9 rfl) ⟨⟨.colon, 5, 6, ":"⟩, rfl⟩
      (.number ⟨.number 7, 6, 7, "7"⟩ 7 rfl)
  let place : PlaceTree :=
    ⟨⟨⟨.placeholderStart, 0, 2, "%\x7b"⟩, rfl⟩, ⟨.name, 2, 3, "n"⟩,
      .settings ⟨⟨.comma, 3, 4, ","⟩, rfl⟩ (.plain (.closed entry ⟨⟨.comma, 7, 8, ","⟩, rfl⟩)),
      ⟨⟨.placeholderEnd, 8, 9, "\x7d"⟩, rfl⟩, .inl (.inl rfl)⟩
  let tree : TemplateTree := ⟨[.place place], ⟨⟨.eof, 9, 9, ""⟩, rfl⟩⟩
  have ht : tokenize "%\x7bn,9:7,\x7d" = .ok tree.tokens := by
    show scanTokens 9 .text ['%', '\x7b', 'n', ',', '9', ':', '7', ',', '\x7d'] = _
    let inside := ScanMode.placeholder 0 0
    refine scanTokens_of_step ⟨[_], inside, ['n', ',', '9', ':', '7', ',', '\x7d']⟩ rfl ?_
    refine scanTokens_of_step ⟨[_], inside, [',', '9', ':', '7', ',', '\x7d']⟩ rfl ?_
    refine scanTokens_of_step ⟨[_], inside, ['9', ':', '7', ',', '\x7d']⟩ rfl ?_
    refine scanTokens_of_step ⟨[_], inside, [':', '7', ',', '\x7d']⟩ rfl ?_
    refine scanTokens_of_step ⟨[_], inside, ['7', ',', '\x7d']⟩ rfl ?_
    refine scanTokens_of_step ⟨[_], inside, [',', '\x7d']⟩ rfl ?_
    refine scanTokens_of_step ⟨[_], inside, ['\x7d']⟩ rfl ?_
    exact scanTokens_of_step ⟨[_], .text, []⟩ rfl (scanTokens_of_end rfl)
  have hd : tree.Distinct := by
    intro item hi
    obtain rfl := List.mem_singleton.1 hi
    intro settings hs
    obtain rfl := Option.some.inj hs
    exact ⟨by decide, Nat.zero_le 1⟩
  exact ⟨tree, ht, hd, ((parse_iff_derivation _).2 tree ht).2 hd⟩

end Template

end Phrasebook
