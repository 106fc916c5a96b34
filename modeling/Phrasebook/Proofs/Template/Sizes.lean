import Phrasebook.Proofs.Template.Scanning
import Phrasebook.Text.Utf8

/-! # Tokens are no larger than the template

    A token takes the room of its text, and a little if it has none; quotes around a text and the
    end of the source take none. What a step reads has room for its tokens: resolving an escape
    sequence and collapsing whitespace make a text smaller, never larger.

    So all tokens together are no larger than the source (`size_of_tokenize`). This bounds at once
    how long a text in a template is and how many tokens stand for something. -/

namespace Phrasebook

/-! ### Bytes of characters -/

/-- Number of bytes that characters take in UTF-8. -/
def byteCount : List Char → Nat
  | [] => 0
  | c :: cs => c.utf8Size + byteCount cs

@[simp] theorem byteCount_nil : byteCount [] = 0 := rfl

@[simp] theorem byteCount_cons (c : Char) (cs : List Char) :
    byteCount (c :: cs) = c.utf8Size + byteCount cs := rfl

@[simp] theorem byteCount_append (cs ds : List Char) :
    byteCount (cs ++ ds) = byteCount cs + byteCount ds := by
  induction cs with
  | nil => simp
  | cons c cs ih => rw [List.cons_append, byteCount_cons, byteCount_cons, ih, Nat.add_assoc]

theorem length_utf8Bytes (s : String) : (utf8Bytes s).length = byteCount s.toList := by
  rw [utf8Bytes]
  induction s.toList with
  | nil => rfl
  | cons c cs ih =>
    rw [List.flatMap_cons, List.length_append, ih, String.length_utf8EncodeChar, byteCount_cons]

theorem length_le_byteCount (cs : List Char) : cs.length ≤ byteCount cs := by
  induction cs with
  | nil => exact Nat.le_refl 0
  | cons c cs ih =>
    have hc := c.utf8Size_pos
    rw [List.length_cons, byteCount_cons]
    omega

theorem byteCount_takeWhile_add_dropWhile (p : Char → Bool) (cs : List Char) :
    byteCount (cs.takeWhile p) + byteCount (cs.dropWhile p) = byteCount cs := by
  rw [← byteCount_append, List.takeWhile_append_dropWhile]

theorem byteCount_le_of_suffix {cs rest : List Char} (h : rest <:+ cs) :
    byteCount rest ≤ byteCount cs := by
  obtain ⟨front, rfl⟩ := h
  rw [byteCount_append]
  omega

/-- A shorter ending has fewer bytes. -/
theorem byteCount_lt_of_suffix {cs rest : List Char} (h : rest <:+ cs)
    (hlt : rest.length < cs.length) : byteCount rest < byteCount cs := by
  obtain ⟨front, rfl⟩ := h
  rw [List.length_append] at hlt
  have hfront := length_le_byteCount front
  rw [byteCount_append]
  omega

/-! ### Escape sequences and literal text -/

theorem suffix_readEscape {cs rest : List Char} {d : Char} (h : readEscape cs = .ok (d, rest)) :
    rest <:+ cs := by
  obtain ⟨written, rfl, -⟩ := unescapeChars_of_readEscape h
  exact List.suffix_append written rest

/-- Nothing that an escape sequence stands for is larger than the sequence. -/
theorem byteCount_of_readEscape {cs rest : List Char} {d : Char}
    (h : readEscape cs = .ok (d, rest)) : d.utf8Size + byteCount rest ≤ byteCount cs := by
  cases cs with
  | nil => simp [readEscape] at h
  | cons c cs =>
    rw [readEscape] at h
    split at h
    · split at h
      · cases h
      -- four digits make room for the largest character
      rename_i code rest' hr
      split at h
      · rename_i d' hd'
        obtain ⟨rfl, rfl⟩ := Prod.mk.inj (Except.ok.inj h)
        obtain ⟨w, x, y, z, rfl, -⟩ := hexNumber?_of_readHex hr
        have hd := d'.utf8Size_le_four
        have hdigits := length_le_byteCount [w, x, y, z]
        simp only [byteCount_cons, byteCount_nil, List.length_cons, List.length_nil] at hdigits ⊢
        omega
      · cases h
    · obtain ⟨rfl, rfl⟩ := Prod.mk.inj (Except.ok.inj h)
      simp

/-- A character takes its bytes, and one more if a space is written in front of it. -/
theorem TextRun.byteCount_content_cons (pending : Bool) (d : Char) (run : TextRun) :
    byteCount (run.cons pending d).content =
      pending.toNat + d.utf8Size + byteCount run.content := by
  have hspace : ' '.utf8Size = 1 := rfl
  cases pending with
  | false => simp [cons]
  | true =>
    simp only [cons, if_true, byteCount_cons, hspace, Bool.toNat_true]
    omega

/-- A text run is no larger than what it was read from. A space that is still to be written takes
    the room of the whitespace that was skipped for it. -/
theorem byteCount_of_scanText {pending : Bool} {cs : List Char} {run : TextRun}
    (h : scanText pending cs = .ok run) :
    byteCount run.content + byteCount run.rest ≤ byteCount cs + pending.toNat ∧
      run.rest <:+ cs := by
  induction pending, cs using scanText.induct generalizing run with
  | case1 pending =>
    rw [scanText] at h
    obtain rfl := Except.ok.inj h
    exact ⟨by simp, List.suffix_rfl⟩
  | case2 pending c cs hp =>
    rw [scanText, if_pos hp] at h
    obtain rfl := Except.ok.inj h
    exact ⟨by simp, List.suffix_rfl⟩
  | case3 pending c cs hp hw ih =>
    rw [scanText, if_neg hp, if_pos hw] at h
    obtain ⟨hbytes, hsuffix⟩ := ih h
    have hc := c.utf8Size_pos
    refine ⟨?_, hsuffix.trans (List.suffix_cons c cs)⟩
    rw [byteCount_cons]
    simp only [Bool.toNat_true] at hbytes
    omega
  | case4 pending cs failure hf hp hw =>
    rw [scanText_of_readEscape_error hf] at h
    cases h
  | case5 pending cs d rest hr hp hw ih =>
    rw [scanText_of_readEscape hr] at h
    obtain ⟨run', hs, rfl⟩ := exists_of_map_eq_ok h
    obtain ⟨hbytes, hsuffix⟩ := ih hs
    have hescape := byteCount_of_readEscape hr
    have hrest : (run'.cons pending d).rest = run'.rest := rfl
    refine ⟨?_, (hsuffix.trans (suffix_readEscape hr)).trans (List.suffix_cons _ cs)⟩
    rw [TextRun.byteCount_content_cons, hrest, byteCount_cons]
    simp only [Bool.toNat_false] at hbytes
    omega
  | case6 pending c cs hp hw hb ih =>
    rw [scanText, if_neg hp, if_neg hw, if_neg hb] at h
    obtain ⟨run', hs, rfl⟩ := exists_of_map_eq_ok h
    obtain ⟨hbytes, hsuffix⟩ := ih hs
    have hrest : (run'.cons pending c).rest = run'.rest := rfl
    refine ⟨?_, hsuffix.trans (List.suffix_cons c cs)⟩
    rw [TextRun.byteCount_content_cons, hrest, byteCount_cons]
    simp only [Bool.toNat_false] at hbytes
    omega

/-- Neither is quoted text. -/
theorem byteCount_of_scanQuoted {quote : Quote} {opening cs text closing : List Char}
    (h : scanQuoted quote opening cs = .ok (text, closing)) :
    byteCount text + byteCount closing ≤ byteCount cs := by
  induction cs using scanQuoted.induct quote generalizing text closing with
  | case1 => simp [scanQuoted] at h
  | case2 cs =>
    rw [scanQuoted, if_pos rfl] at h
    obtain ⟨rfl, rfl⟩ := Prod.mk.inj (Except.ok.inj h)
    simp
  | case3 cs failure hf hq =>
    rw [scanQuoted_of_readEscape_error hf] at h
    cases h
  | case4 cs d rest hr hq ih =>
    rw [scanQuoted_of_readEscape hr] at h
    obtain ⟨r, hs, hboth⟩ := exists_of_map_eq_ok h
    obtain ⟨rfl, rfl⟩ := Prod.mk.inj hboth
    have hbytes := ih hs
    have hescape := byteCount_of_readEscape hr
    rw [byteCount_cons, byteCount_cons]
    omega
  | case5 c cs hq hb ih =>
    rw [scanQuoted, if_neg hq, if_neg hb] at h
    obtain ⟨r, hs, hboth⟩ := exists_of_map_eq_ok h
    obtain ⟨rfl, rfl⟩ := Prod.mk.inj hboth
    have hbytes := ih hs
    rw [byteCount_cons, byteCount_cons]
    omega

/-! ### Tokens -/

/-- The room that a token takes. -/
def Token.size (token : Token) : Nat :=
  match token.kind with
  | .quoteStart _ | .quoteEnd _ | .eof => 0
  | .quotedText source => max (byteCount source.toList) (byteCount token.text.toList) + 1
  | _ => max (byteCount token.text.toList) 1

/-- The room that tokens take together. -/
def tokensSize : List Token → Nat
  | [] => 0
  | token :: tokens => token.size + tokensSize tokens

@[simp] theorem tokensSize_nil : tokensSize [] = 0 := rfl

@[simp] theorem tokensSize_cons (token : Token) (tokens : List Token) :
    tokensSize (token :: tokens) = token.size + tokensSize tokens := rfl

@[simp] theorem tokensSize_append (tokens more : List Token) :
    tokensSize (tokens ++ more) = tokensSize tokens + tokensSize more := by
  induction tokens with
  | nil => simp
  | cons token tokens ih =>
    rw [List.cons_append, tokensSize_cons, tokensSize_cons, ih, Nat.add_assoc]

theorem Token.size_of_isSingle {token : Token} (h : token.kind.isSingle = true) :
    token.size = max (byteCount token.text.toList) 1 := by
  unfold size
  split <;> simp_all [TokenKind.isSingle]

theorem size_of_mem {token : Token} {tokens : List Token} (h : token ∈ tokens) :
    token.size ≤ tokensSize tokens := by
  obtain ⟨front, back, rfl⟩ := List.append_of_mem h
  rw [tokensSize_append, tokensSize_cons]
  omega

/-- A single token has room where its text was read, as long as something was read. -/
theorem size_between {size : Nat} {kind : TokenKind} {text cs rest : List Char}
    (hk : kind.isSingle = true) (h : byteCount text + byteCount rest ≤ byteCount cs)
    (hlt : byteCount rest < byteCount cs) :
    tokensSize [.between size kind (String.ofList text) cs rest] + byteCount rest ≤
      byteCount cs := by
  have hsize : (Token.between size kind (String.ofList text) cs rest).size =
      max (byteCount text) 1 := by
    rw [Token.size_of_isSingle hk]
    simp [Token.between]
  rw [tokensSize_cons, hsize, tokensSize_nil]
  omega

theorem size_of_scanTextStep {size : Nat} {cs : List Char} {step : ScanStep} (hcs : cs ≠ [])
    (h : scanTextStep size cs = .ok step) :
    tokensSize step.tokens + byteCount step.rest ≤ byteCount cs := by
  have hlt := scanTextStep_rest_lt hcs h
  unfold scanTextStep at h
  split at h
  · obtain rfl := Except.ok.inj h
    have htext : ("%\x7b" : String) = String.ofList ['%', '\x7b'] := rfl
    rw [htext]
    refine size_between rfl ?_ ?_ <;> simp only [byteCount_cons, byteCount_nil]
    · omega
    · have hpercent := '%'.utf8Size_pos
      omega
  · obtain ⟨run, hs, rfl⟩ := exists_of_map_eq_ok h
    obtain ⟨hbytes, hsuffix⟩ := byteCount_of_scanText hs
    have hdropped := List.dropWhile_suffix isWhitespace (l := cs)
    have hle := byteCount_le_of_suffix hdropped
    simp only [Bool.toNat_false] at hbytes
    refine size_between rfl ?_ (byteCount_lt_of_suffix (hsuffix.trans hdropped) hlt)
    omega

theorem size_of_scanQuotedTokens {size : Nat} {quote : Quote} {opening content rest : List Char}
    {tokens : List Token} (h : scanQuotedTokens size quote opening content = .ok (tokens, rest)) :
    tokensSize tokens + byteCount rest ≤ byteCount content := by
  unfold scanQuotedTokens at h
  obtain ⟨⟨text, closing⟩, hs, hboth⟩ := exists_of_map_eq_ok h
  obtain ⟨rfl, rfl⟩ := Prod.mk.inj hboth
  have htext := byteCount_of_scanQuoted hs
  obtain ⟨source, rfl, -⟩ := unescapeChars_of_scanQuoted hs
  -- the closing quote makes the room that the token takes besides its text
  have hclosing : byteCount closing.tail < byteCount closing := by
    have hhead := (scanQuoted_closing hs).1
    cases closing with
    | nil => cases hhead
    | cons c cs =>
      have hc := c.utf8Size_pos
      rw [List.tail_cons, byteCount_cons]
      omega
  have htake : (source ++ closing).take ((source ++ closing).length - closing.length) = source := by
    rw [List.length_append, Nat.add_sub_cancel, List.take_left' rfl]
  rw [byteCount_append] at htext ⊢
  simp only [tokensSize_cons, tokensSize_nil, Token.size, Token.between, htake,
    String.toList_ofList]
  omega

theorem size_of_scanNumber {size : Nat} {negative : Bool} {cs digits rest : List Char}
    {token : Token} (hcs : cs = if negative then '-' :: digits else digits)
    (hlt : rest.length < cs.length)
    (h : scanNumber size negative cs digits = .ok (token, rest)) :
    tokensSize [token] + byteCount rest ≤ byteCount cs := by
  obtain ⟨rfl, n, rfl⟩ := scanNumber_eq_ok h
  have hdigits := byteCount_takeWhile_add_dropWhile isDigit digits
  have hsuffix : digits.dropWhile isDigit <:+ cs := by
    rw [hcs]
    cases negative with
    | false => exact List.dropWhile_suffix isDigit
    | true => exact (List.dropWhile_suffix isDigit).trans (List.suffix_cons '-' digits)
  refine size_between rfl ?_ (byteCount_lt_of_suffix hsuffix hlt)
  subst hcs
  cases negative <;> simp <;> omega

theorem PlaceholderStep.size {size opened maps : Nat} {c : Char} {cs : List Char}
    {step : ScanStep} (h : PlaceholderStep size opened maps c cs step) :
    tokensSize step.tokens + byteCount step.rest ≤ byteCount (c :: cs) := by
  have hlt := h.rest_lt
  have hc := c.utf8Size_pos
  cases h with
  | @punctuation kind mode hk =>
    have hsingle : kind.isSingle = true := by
      unfold punctuationAt? at hk
      split at hk <;> simp at hk <;> obtain ⟨rfl, -⟩ := hk <;> rfl
    refine size_between hsingle ?_ ?_ <;> simp only [byteCount_cons, byteCount_nil] <;> omega
  | quoted hs =>
    have hquoted := size_of_scanQuotedTokens hs
    rw [byteCount_cons]
    exact Nat.le_trans hquoted (Nat.le_add_left _ _)
  | comparator relation two =>
    have hnext := byteCount_append (cs.take 1) (cs.drop 1)
    rw [List.take_append_drop, List.drop_one] at hnext
    refine size_between rfl ?_ ?_ <;> cases two <;> simp <;> omega
  | number hd hs => exact size_of_scanNumber rfl hlt hs
  | negative hminus hs => exact size_of_scanNumber (by rw [if_pos rfl, hminus]) hlt hs
  | word hstart =>
    have hword := byteCount_takeWhile_add_dropWhile isNamePart cs
    refine size_between (isSingle_ofWord _) ?_ ?_ <;> simp only [byteCount_cons] <;> omega

/-- Whatever a step reads has room for its tokens. -/
theorem size_of_scanStep {size : Nat} {mode : ScanMode} {cs : List Char} {step : ScanStep}
    (h : scanStep size mode cs = .ok (some step)) :
    tokensSize step.tokens + byteCount step.rest ≤ byteCount cs := by
  rcases scanStep_cases h with ⟨-, hcs, hs⟩ | ⟨opened, maps, c, ds, -, hd, hs⟩
  · exact size_of_scanTextStep hcs hs
  · have hspaces := byteCount_le_of_suffix (List.dropWhile_suffix isWhitespace (l := cs))
    rw [hd] at hspaces
    exact Nat.le_trans hs.size hspaces

/-- The tokens of what is left are together no larger than it. -/
theorem size_of_scanTokens {size : Nat} {mode : ScanMode} {cs : List Char} {tokens : List Token}
    (h : scanTokens size mode cs = .ok tokens) : tokensSize tokens ≤ byteCount cs := by
  refine scanTokens_induction (motive := fun _ cs tokens => tokensSize tokens ≤ byteCount cs)
    ?_ ?_ h
  · intro cs hs
    exact Nat.zero_le _
  · intro mode cs step tokens hs ih
    have hstep := size_of_scanStep hs
    rw [tokensSize_append]
    omega

theorem size_of_tokenize {source : String} {tokens : List Token}
    (h : tokenize source = .ok tokens) : tokensSize tokens ≤ (utf8Bytes source).length := by
  rw [length_utf8Bytes]
  exact size_of_scanTokens h

end Phrasebook
