import Phrasebook.Proofs.Rendering.Supplied
import Phrasebook.Proofs.Text.Trimming

/-! # Clipped texts

    Clipping measures a text without the whitespace around it. If that is too long, the clipped text
    is a beginning of it with an ellipsis, and fits. Else the text stays as it is, with the whitespace
    around it. Formatters drop the spaces around a text, but no line breaks, and these make a text
    that is short enough without them as long as they like (`not_clipped_feeds`).

    So a clipped text fits if and only if it was cut, or did fit with its line breaks
    (`Clipped.fits_iff`). -/

namespace Phrasebook

variable {limit : Nat} {fragment result : Fragment}

/-! ### Clipping a fragment -/

/-- What clipping makes of a text. -/
structure Clipped (limit : Nat) (fragment result : Fragment) : Prop where
  /-- A text that is too long without the whitespace around it becomes a beginning of it and an
      ellipsis. -/
  cut : limit < (trimBlank fragment.text).length →
    ∃ beginning, beginning.toList <+: (trimBlank fragment.text).toList ∧
      beginning.length = limit - ellipsis.length ∧
      result.text = trimBlankEnd beginning ++ ellipsis ∧ result.text.length ≤ limit
  /-- A text that is short enough without that whitespace stays as it is. -/
  kept : (trimBlank fragment.text).length ≤ limit → result = fragment

/-- A clipped text fits if it was cut, or did fit before. -/
theorem Clipped.fits_iff (h : Clipped limit fragment result) :
    result.text.length ≤ limit ↔
      limit < (trimBlank fragment.text).length ∨ fragment.text.length ≤ limit := by
  by_cases hlong : limit < (trimBlank fragment.text).length
  · obtain ⟨beginning, -, -, -, hfits⟩ := h.cut hlong
    exact iff_of_true hfits (.inl hlong)
  · rw [h.kept (Nat.le_of_not_lt hlong)]
    constructor
    · exact .inr
    · intro hor
      exact hor.resolve_left hlong

theorem length_trimBlankEnd_le (text : String) : (trimBlankEnd text).length ≤ text.length := by
  rw [trimBlankEnd, String.length_ofList, ← String.length_toList]
  exact dropEndWhile_length_le

theorem clipped_clip (hl : ellipsis.length ≤ limit) (fragment : Fragment) :
    Clipped limit fragment (clip limit fragment) := by
  constructor
  · intro hlong
    let beginning := String.ofList ((trimBlank fragment.text).toList.take (limit - ellipsis.length))
    have hclip : (clip limit fragment).text = trimBlankEnd beginning ++ ellipsis := by
      unfold clip
      dsimp only
      rw [if_neg (Nat.not_le_of_lt hlong)]
    have hbeginning : beginning.length = limit - ellipsis.length := by
      rw [String.length_ofList, List.length_take, String.length_toList]
      omega
    refine ⟨beginning, ?_, hbeginning, hclip, ?_⟩
    · rw [String.toList_ofList]
      exact List.take_prefix _ _
    · -- the ellipsis takes the room that the beginning leaves
      have htrimmed := length_trimBlankEnd_le beginning
      rw [hclip, String.length_append]
      omega
  · intro hshort
    unfold clip
    dsimp only
    rw [if_pos hshort]

/-- Flags have no part in clipping. -/
theorem clip_withSpaces (limit : Nat) (before after : Bool) (fragment : Fragment) :
    (clip limit fragment).withSpaces before after =
      clip limit (fragment.withSpaces before after) := by
  unfold clip
  dsimp only [Fragment.withSpaces]
  split <;> rfl

/-! ### The limit -/

/-- The size that is asked for, or the default. -/
def FormatCall.clipSize (call : FormatCall) : Int :=
  ((call.settingNumber? "clip-size").map Int64.toInt).getD 64

theorem FormatCall.clipLimit_eq (call : FormatCall) : (call.clipLimit : Int) = max call.clipSize 8 := by
  unfold clipLimit
  have hsize : ((call.settingNumber? "clip-size").map Int64.toInt).getD 64 = call.clipSize := rfl
  rw [hsize]
  omega

theorem FormatCall.ellipsis_le_clipLimit (call : FormatCall) : ellipsis.length ≤ call.clipLimit :=
  Nat.le_trans (by decide : ellipsis.length ≤ 8) (Nat.le_max_right _ _)

/-! ### Clipped placeholders -/

variable {context : Context} {parameters : Parameters} {place : Placeholder}
  {nested : NestedRenderer place.settings} {value : Value}
  {declarations : List (String × Option String × List String)}

/-- A clipped placeholder that selects no entry for null or empty values has no text if its value is
    null. Otherwise its text is what clipping to the size in its settings, or to eight characters,
    makes of the text that the placeholder has without the format. -/
theorem clipped_of_renderPlaceholder (hr : context.registry = .withTypes declarations)
    (hf : place.format = some "clip") (hv : context.valueOf parameters place.name = .ok value)
    (hs : FormatCall.select ⟨context, parameters, place.settings⟩ value [.empty, .null] false = none)
    (h : renderPlaceholder context parameters place nested = .ok result) :
    ∃ limit : Nat,
      (limit : Int) = max (FormatCall.clipSize ⟨context, parameters, place.settings⟩) 8 ∧
      (value = .null → result.text = "") ∧
      (value ≠ .null → ∃ unclipped,
        renderPlaceholder context parameters { place with format := none } nested = .ok unclipped ∧
          Clipped limit unclipped result ∧
          (result.text.length ≤ limit ↔
            limit < (trimBlank unclipped.text).length ∨ unclipped.text.length ≤ limit)) := by
  let call : FormatCall := ⟨context, parameters, place.settings⟩
  obtain ⟨formatted, hformatted, rfl⟩ := (renderPlaceholder_eq_ok_iff place hv).1 h
  rw [hf, formatValue_clip hr, FormatCall.selectOr_of_select_none hs] at hformatted
  refine ⟨call.clipLimit, call.clipLimit_eq, ?_, ?_⟩
  · -- null is not formatted by its type, so there is no unclipped text to speak of
    rintro rfl
    obtain rfl := Except.ok.inj hformatted
    rfl
  · intro hnull
    rw [value.isNull_of_ne hnull] at hformatted
    obtain ⟨plain, hp, rfl⟩ := exists_of_map_eq_ok hformatted
    let unclipped := plain.withSpaces place.spaceBefore place.spaceAfter
    have hclipped : Clipped call.clipLimit unclipped (clip call.clipLimit unclipped) :=
      clipped_clip call.ellipsis_le_clipLimit unclipped
    have hunclipped :
        renderPlaceholder context parameters { place with format := none } nested = .ok unclipped :=
      (renderPlaceholder_eq_ok_iff { place with format := none } hv).2 ⟨plain, hp, rfl⟩
    rw [clip_withSpaces]
    exact ⟨unclipped, hunclipped, hclipped, hclipped.fits_iff⟩

/-- A placeholder that clips its parameter. -/
def clippedPlace (size : Int64) : Placeholder :=
  ⟨"x", some "clip", ⟨[(.name "clip-size", .number size)], none⟩, false, false⟩

/-- A text has no entry among the settings, so what is shown is the text clipped. -/
theorem renderPlaceholder_clippedPlace {size : Int64} {text : String}
    (nested : NestedRenderer (clippedPlace size).settings)
    (hv : Context.standard.valueOf parameters "x" = .ok (.string text)) :
    let call : FormatCall := ⟨.standard, parameters, (clippedPlace size).settings⟩
    renderPlaceholder .standard parameters (clippedPlace size) nested =
      .ok (clip call.clipLimit (.unspaced text)) := by
  intro call
  have hstandard : call.context.registry = .withTypes [] := rfl
  have hempty : call.select (.string text) [.empty, .null] false = none := rfl
  have hformat : formatValue call nested (some "clip") (.string text) =
      .ok (clip call.clipLimit (.unspaced text)) := by
    rw [formatValue_clip hstandard, FormatCall.selectOr_of_select_none hempty]
    show (formatValue call nested none _).map _ = _
    rw [formatValue_string rfl hempty rfl nested]
    rfl
  refine (renderPlaceholder_eq_ok_iff _ hv).2 ⟨_, hformat, ?_⟩
  rw [clip_withSpaces]
  rfl

/-- A text that is cut between two words. -/
theorem clipped_of_renderPlaceholder_words :
    ∃ (parameters : Parameters) (nested : NestedRenderer (clippedPlace 9).settings),
      parameters.get? "x" = some (.string "Hello wonderful world") ∧
      renderPlaceholder .standard parameters (clippedPlace 9) nested =
        .ok { text := "Hello..." } ∧
      ∃ limit : Nat,
        (limit : Int) =
          max (FormatCall.clipSize ⟨.standard, parameters, (clippedPlace 9).settings⟩) 8 ∧
        ∃ unclipped,
          renderPlaceholder .standard parameters { clippedPlace 9 with format := none } nested =
            .ok unclipped ∧ Clipped limit unclipped { text := "Hello..." } := by
  let parameters := Parameters.insert {} "x" (.string "Hello wonderful world")
  let nested : NestedRenderer (clippedPlace 9).settings := fun _ _ => .ok .empty
  have hvalue : Context.standard.valueOf parameters "x" =
      .ok (.string "Hello wonderful world") := rfl
  have hselect : FormatCall.select ⟨.standard, parameters, (clippedPlace 9).settings⟩
      (.string "Hello wonderful world") [.empty, .null] false = none := rfl
  have hrendered : renderPlaceholder .standard parameters (clippedPlace 9) nested =
      .ok { text := "Hello..." } := by
    rw [renderPlaceholder_clippedPlace nested hvalue]
    decide
  obtain ⟨limit, hlimit, -, hclipped⟩ :=
    @clipped_of_renderPlaceholder _ .standard parameters (clippedPlace 9) nested _ [] rfl rfl
      hvalue hselect hrendered
  obtain ⟨unclipped, hunclipped, hcut, -⟩ := hclipped (by simp)
  exact ⟨parameters, nested, rfl, hrendered, limit, hlimit, unclipped, hunclipped, hcut⟩

/-- Line breaks in front of a letter are not measured, and stay. -/
theorem not_clipped_feeds :
    let call : FormatCall :=
      ⟨.standard, Parameters.insert {} "x" (.string "\n\n\n\n\n\n\n\na"), (clippedPlace 8).settings⟩
    call.select (.string "\n\n\n\n\n\n\n\na") [.empty, .null] false = none ∧ call.clipSize = 8 ∧
      ∃ text, render .standard (.single (.placeholder (clippedPlace 8))) call.parameters = .ok text ∧
        ¬ (text.length : Int) ≤ max call.clipSize 8 := by
  intro call
  refine ⟨rfl, rfl, "\n\n\n\n\n\n\n\na", ?_, by decide⟩
  have hpart : renderPart .standard call.parameters (.placeholder (clippedPlace 8)) =
      .ok { text := "\n\n\n\n\n\n\n\na" } := by
    show renderPlaceholder .standard _ _ _ = _
    rw [renderPlaceholder_clippedPlace _ rfl]
    decide
  rw [render, renderMessage_parts (by simp) (by simp)]
  simp only [Message.parts, List.mapM_cons, hpart]
  rfl

end Phrasebook
