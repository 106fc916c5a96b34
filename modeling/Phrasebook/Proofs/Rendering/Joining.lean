import Phrasebook.Proofs.Formatter.Resolution
import Phrasebook.Proofs.Rendering.Dispatch
import Phrasebook.Proofs.Text.Gluing
import Phrasebook.Text.Joining

/-! # Joined lists

    A joiner keeps spaces as flags, so what a separator shows is not its own text: the spaces at an
    end of it count as one, and those of a blank separator as one in all (`shownSeparator`). As long
    as the items have neither flags nor spaces around them, nothing else goes into the gaps, and a
    list is its items with the shown separators between them (`joinedItems_plain`).

    From that follows what a formatted list looks like for every separator, every limit and every text
    for what is left out (`formatValue_list`). -/

namespace Phrasebook

/-! ### Separators -/

/-- What a separator shows: one space in the place of all spaces at either end. -/
def shownSeparator (separator : String) : String :=
  if separator = "" then ""
  else if trimSpaces separator = "" then " "
  else
    (if separator.toList.head?.any isSpaceChar then " " else "") ++ trimSpaces separator ++
      (if separator.toList.getLast?.any isSpaceChar then " " else "")

/-- Texts with a separator between neighbours, and another one in front of the last text. -/
def joinWithLast (separator last : String) : List String → String
  | [] => ""
  | [s] => s
  | s :: t :: ts =>
    s ++ (if ts.isEmpty then last else separator) ++ joinWithLast separator last (t :: ts)

theorem joinWithLast_self (separator : String) (texts : List String) :
    joinWithLast separator separator texts = joinWith separator texts := by
  induction texts with
  | nil => rfl
  | cons s texts ih =>
    cases texts with
    | nil => rfl
    | cons t ts => rw [joinWithLast, ite_self, joinWith_cons_cons, ih]

/-- An item as it is: a text that is not empty, without spaces around it. -/
structure IsItem (text : String) : Prop where
  /-- There is text. -/
  nonempty : text ≠ ""
  /-- No spaces stand around it. -/
  unspaced : Unspaced text

theorem IsItem.isEmpty_eq {text : String} (h : IsItem text) :
    Fragment.isEmpty { text } = false := by
  simpa [Fragment.isEmpty] using h.nonempty

theorem any_eq_getD_map (p : Char → Bool) (c : Option Char) : c.any p = (c.map p).getD false := by
  cases c <;> rfl

/-- A separator and an item behind other items. -/
theorem Joiner.add_separator (joined separator : String) {item : String} (hi : IsItem item) :
    ((⟨joined, false⟩ : Joiner).add (.spaced separator)).add { text := item } =
      ⟨joined ++ shownSeparator separator ++ item, false⟩ := by
  by_cases hblank : trimSpaces separator = ""
  · -- the flags of a blank separator are those of any gap, so they make one space at most
    have hspaced : Fragment.spaced separator = ⟨"", !separator.isEmpty, !separator.isEmpty⟩ := by
      simp [Fragment.spaced, hblank]
    have hnone : (Fragment.spaced separator).isEmpty = true := by
      rw [hspaced]
      rfl
    have hshown : shownSeparator separator = if !separator.isEmpty then " " else "" := by
      unfold shownSeparator
      by_cases hempty : separator = "" <;> simp [hempty, hblank]
    rw [add_of_isEmpty hnone, add_of_not_isEmpty hi.isEmpty_eq, hshown, hspaced]
    simp [Fragment.flagged]
  · have hne : separator ≠ "" := by
      rintro rfl
      exact hblank rfl
    have htext : (trimSpaces separator).isEmpty = false := by simpa using hblank
    have hspaced : Fragment.spaced separator = ⟨trimSpaces separator,
        separator.toList.head?.any isSpaceChar, separator.toList.getLast?.any isSpaceChar⟩ := by
      rw [any_eq_getD_map, any_eq_getD_map]
      unfold Fragment.spaced
      simp only [htext, Bool.false_eq_true, if_false]
    have hfilled : (Fragment.spaced separator).isEmpty = false := by
      rw [hspaced]
      exact htext
    rw [add_of_not_isEmpty hfilled, add_of_not_isEmpty hi.isEmpty_eq, hspaced]
    simp [shownSeparator, hne, hblank, String.append_assoc]

/-! ### Joined items -/

/-- A joiner that has some text and an item goes on with a separator for every further item. -/
theorem joinItems_plain (separator last front : String) {first : String} {items : List String}
    (h : ∀ item ∈ items, IsItem item) :
    joinItems (.spaced separator) (.spaced last) true ⟨front ++ first, false⟩
        (items.map fun item => { text := item }) =
      ⟨front ++ joinWithLast (shownSeparator separator) (shownSeparator last) (first :: items),
        false⟩ := by
  induction items generalizing front first with
  | nil => rfl
  | cons item items ih =>
    obtain ⟨hitem, hitems⟩ := List.forall_mem_cons.1 h
    have hgap : (if (items.map fun item => ({ text := item } : Fragment)).isEmpty
        then Fragment.spaced last else Fragment.spaced separator) =
        Fragment.spaced (if items.isEmpty then last else separator) := by
      cases items <;> simp
    have hshown : shownSeparator (if items.isEmpty then last else separator) =
        if items.isEmpty then shownSeparator last else shownSeparator separator := by
      cases items <;> simp
    rw [List.map_cons, joinItems]
    simp only [if_true]
    rw [hgap, Joiner.add_separator _ _ hitem, ih _ hitems, hshown, joinWithLast]
    simp only [String.append_assoc]

theorem isItem_joinWithLast (separator last : String) {first : String} {items : List String}
    (h : ∀ item ∈ first :: items, IsItem item) :
    IsItem (joinWithLast separator last (first :: items)) := by
  induction items generalizing first with
  | nil => exact h first List.mem_cons_self
  | cons item items ih =>
    obtain ⟨hfirst, hrest⟩ := List.forall_mem_cons.1 h
    have hjoined := ih hrest
    have hleft : first.toList ≠ [] := fun hnil => hfirst.nonempty (String.toList_eq_nil_iff.1 hnil)
    have hright : (joinWithLast separator last (item :: items)).toList ≠ [] :=
      fun hnil => hjoined.nonempty (String.toList_eq_nil_iff.1 hnil)
    rw [joinWithLast]
    constructor
    · intro hempty
      rw [← String.toList_eq_nil_iff, String.toList_append, String.toList_append] at hempty
      simp [hleft] at hempty
    · unfold Unspaced
      rw [String.toList_append, String.toList_append]
      exact hfirst.unspaced.append hjoined.unspaced hleft hright

/-- Items are joined with what the separators show between them. -/
theorem joinedItems_plain (separator last : String) {items : List String}
    (h : ∀ item ∈ items, IsItem item) :
    joinedItems separator last (items.map fun item => { text := item }) =
      { text := joinWithLast (shownSeparator separator) (shownSeparator last) items } := by
  cases items with
  | nil => rfl
  | cons first items =>
    obtain ⟨hfirst, hitems⟩ := List.forall_mem_cons.1 h
    have hjoined := isItem_joinWithLast (shownSeparator separator) (shownSeparator last) h
    -- the first item comes without a separator, and behind nothing
    have hstart : ({} : Joiner).add { text := first } = ⟨"" ++ first, false⟩ := by
      rw [Joiner.add_of_not_isEmpty hfirst.isEmpty_eq]
      rfl
    rw [joinedItems, List.map_cons, joinItems]
    simp only [Bool.false_eq_true, if_false]
    rw [hstart, joinItems_plain separator last "" hitems, String.empty_append, Joiner.toUnspaced,
      Fragment.unspaced, hjoined.unspaced.trimSpaces_eq]

/-! ### Styles -/

/-- What a list of texts looks like: with separators between all of them if there is no limit or
    they are within it, else the first of them, followed by the text for the others if there is
    one. -/
def listed (separator last : String) (limit : Option Nat) (more : String) (texts : List String) :
    String :=
  match limit with
  | none => joinWithLast separator last texts
  | some limit =>
    if limit < texts.length ∧ more ≠ "" then joinWith separator (texts.take limit ++ [more])
    else joinWithLast separator last (texts.take limit)

/-- The text for the items left out, if there is text, else none. -/
theorem filter_unspaced (more : Option String) :
    (more.map Fragment.unspaced).filter (!·.isEmpty) =
      if trimSpaces (more.getD "") = "" then none
      else some { text := trimSpaces (more.getD "") } := by
  cases more with
  | none => rfl
  | some more =>
    by_cases hblank : trimSpaces more = ""
    · simp [Fragment.unspaced, Fragment.isEmpty, hblank]
    · simp [Fragment.unspaced, Fragment.isEmpty, hblank]

theorem ListStyle.join_plain (style : ListStyle) (more : Option String)
    (hm : style.more = (more.map Fragment.unspaced).filter (!·.isEmpty)) {items : List String}
    (h : ∀ item ∈ items, IsItem item) :
    style.join (items.map fun item => { text := item }) =
      { text := listed (shownSeparator style.separator) (shownSeparator style.last) style.limit
          (trimSpaces (more.getD "")) items } := by
  unfold join listed
  cases style.limit with
  | none => exact joinedItems_plain _ _ h
  | some limit =>
    have htake : ∀ item ∈ items.take limit, IsItem item := by
      intro item hi
      exact h item (List.mem_of_mem_take hi)
    simp only [List.length_map]
    by_cases hlong : limit < items.length
    · rw [filter_unspaced] at hm
      rw [if_pos hlong, hm]
      by_cases hblank : trimSpaces (more.getD "") = ""
      · -- without a text for the others the list ends with its last gap
        rw [if_pos hblank, if_neg (fun hboth => hboth.2 hblank)]
        simp only [← List.map_take]
        exact joinedItems_plain _ _ htake
      · have hmore : IsItem (trimSpaces (more.getD "")) := ⟨hblank, unspaced_trimSpaces _⟩
        have hall : ∀ item ∈ items.take limit ++ [trimSpaces (more.getD "")], IsItem item :=
          List.forall_mem_append.2 ⟨htake, List.forall_mem_singleton.2 hmore⟩
        have hjoined := joinedItems_plain style.separator style.separator hall
        rw [List.map_append, List.map_singleton, joinWithLast_self] at hjoined
        rw [if_neg hblank, if_pos ⟨hlong, hblank⟩]
        simp only [← List.map_take]
        exact hjoined
    · -- the limit takes all of the items
      have hwhole : items.take limit = items := List.take_of_length_le (Nat.le_of_not_lt hlong)
      rw [if_neg hlong, if_neg (fun hboth => hlong hboth.1), hwhole]
      exact joinedItems_plain _ _ h

/-! ### Formatted lists -/

namespace FormatCall

variable (call : FormatCall)

/-- The separator that is asked for, or the default. -/
def listSeparator : String := (call.settingText? "list-sep").getD ", "

/-- The separator in front of the last item. -/
def listLast : String := (call.settingText? "list-sep-last").getD call.listSeparator

/-- The limit that is asked for, if it is positive. -/
def listLimit : Option Nat :=
  ((call.settingNumber? "list-max-size").filter (0 < ·)).map (·.toInt.toNat)

/-- The text for the items left out, without spaces around it. -/
def listMore : String := trimSpaces ((call.settingText? "list-value-more").getD "")

end FormatCall

/-- Fragments without flags are nothing but their texts. -/
theorem map_text_eq {fragments : List Fragment}
    (h : ∀ f ∈ fragments, f.spaceBefore = false ∧ f.spaceAfter = false) :
    ((fragments.map Fragment.text).map fun text => { text := text }) = fragments := by
  induction fragments with
  | nil => rfl
  | cons f fragments ih =>
    obtain ⟨hf, hrest⟩ := List.forall_mem_cons.1 h
    obtain ⟨text, before, after⟩ := f
    obtain ⟨rfl, rfl⟩ := hf
    rw [List.map_cons, List.map_cons, ih hrest]

/-- The texts that are not empty are those of the fragments that are not. -/
theorem filter_map_text (fragments : List Fragment) :
    (fragments.map Fragment.text).filter (· ≠ "") =
      (fragments.filter (!·.isEmpty)).map Fragment.text := by
  rw [List.filter_map]
  refine congrArg (List.map Fragment.text) (List.filter_congr ?_)
  intro f _
  rw [Bool.eq_iff_iff]
  simp [Fragment.isEmpty]

/-- A list whose elements are formatted to texts without flags and spaces around them is formatted
    to those that are not empty, joined as the settings ask for, unless an entry for null or empty
    values is selected. -/
theorem formatValue_list {call : FormatCall} {nested : NestedRenderer call.settings}
    {format : Option String} {values : List Value} {fragments : List Fragment}
    (hr : call.context.registry.resolve format "list" = .builtin .list)
    (hf : values.mapM (formatValue call nested none) = .ok fragments)
    (hplain : ∀ f ∈ fragments, f.text ≠ "" →
      f.spaceBefore = false ∧ f.spaceAfter = false ∧ Unspaced f.text) :
    formatValue call nested format (.list values) =
      call.selectOr nested (.list values) [.empty, .null] false (.ok {
        text := listed (shownSeparator call.listSeparator) (shownSeparator call.listLast)
          call.listLimit call.listMore ((fragments.map Fragment.text).filter (· ≠ "")) }) := by
  let kept := fragments.filter (!·.isEmpty)
  have hkept : ∀ f ∈ kept, f.text ≠ "" ∧ f.spaceBefore = false ∧ f.spaceAfter = false ∧
      Unspaced f.text := by
    intro f hmem
    obtain ⟨hfragment, hne⟩ := List.mem_filter.1 hmem
    have hne' : f.text ≠ "" := by simpa [Fragment.isEmpty] using hne
    exact ⟨hne', hplain f hfragment hne'⟩
  have hitems : ∀ item ∈ kept.map Fragment.text, IsItem item := by
    intro item hi
    obtain ⟨f, hmem, rfl⟩ := List.mem_map.1 hi
    exact ⟨(hkept f hmem).1, (hkept f hmem).2.2.2⟩
  have hjoined : call.listStyle.join kept =
      { text := listed (shownSeparator call.listSeparator) (shownSeparator call.listLast)
          call.listLimit call.listMore (kept.map Fragment.text) } := by
    have h := ListStyle.join_plain call.listStyle (call.settingText? "list-value-more") rfl hitems
    rw [map_text_eq fun f hmem => ⟨(hkept f hmem).2.1, (hkept f hmem).2.2.1⟩] at h
    exact h
  have helements : (values.attach.mapM fun element => formatValue call nested none element.1) =
      .ok fragments := by
    rw [List.mapM_subtype (fun _ _ => rfl), List.unattach_attach]
    exact hf
  have htype : call.context.registry.resolve format (Value.list values).typeName =
      .builtin .list := hr
  rw [formatValue.eq_def, htype, filter_map_text]
  show call.selectOr nested (.list values) [.empty, .null] false (do
    let items ← values.attach.mapM fun element => formatValue call nested none element.1
    .ok (call.listStyle.join (items.filter (!·.isEmpty)))) = _
  rw [helements, ← hjoined]
  rfl

/-- A list of four elements, one of them without a text, of which two are shown. -/
theorem formatValue_list_four :
    let settings : Settings SettingValue :=
      ⟨[(.name "list-sep", .string (.ofText "  |")), (.name "list-max-size", .number 2),
        (.name "list-value-more", .string (.ofText " etc. "))], none⟩
    let nested : NestedRenderer settings := fun _ _ => .ok .empty
    let values : List Value := [.string "a", .string " ", .string "b", .string "c"]
    let fragments : List Fragment := [{ text := "a" }, {}, { text := "b" }, { text := "c" }]
    Context.standard.registry.resolve none "list" = .builtin .list ∧
      values.mapM (formatValue ⟨.standard, {}, settings⟩ nested none) = .ok fragments ∧
      (∀ f ∈ fragments, f.text ≠ "" →
        f.spaceBefore = false ∧ f.spaceAfter = false ∧ Unspaced f.text) ∧
      formatValue ⟨.standard, {}, settings⟩ nested none (.list values) =
        .ok { text := "a |b |etc." } := by
  intro settings nested values fragments
  let call : FormatCall := ⟨.standard, {}, settings⟩
  have hr : Context.standard.registry.resolve none "list" = .builtin .list :=
    Registry.resolve_standard (.list values) (by simp)
  have hcontext : call.context = .standard := rfl
  have hstring (text : String) : formatValue call nested none (.string text) =
      .ok (.unspaced text) := formatValue_string hcontext rfl rfl nested
  have hf : values.mapM (formatValue call nested none) = .ok fragments := by
    simp only [values, List.mapM_cons, hstring]
    rfl
  have hplain : ∀ f ∈ fragments, f.text ≠ "" →
      f.spaceBefore = false ∧ f.spaceAfter = false ∧ Unspaced f.text := by
    have hshort : ∀ f ∈ fragments, f.spaceBefore = false ∧ f.spaceAfter = false ∧
        trimSpaces f.text = f.text := by
      decide
    intro f hmem _
    obtain ⟨hbefore, hafter, htext⟩ := hshort f hmem
    exact ⟨hbefore, hafter, htext ▸ unspaced_trimSpaces f.text⟩
  refine ⟨hr, hf, hplain, ?_⟩
  have hselect : call.select (.list values) [.empty, .null] false = none := rfl
  have hseparator : shownSeparator call.listSeparator = " |" := by decide
  have hlast : shownSeparator call.listLast = " |" := by decide
  have hlimit : call.listLimit = some 2 := rfl
  have hmore : call.listMore = "etc." := by decide
  rw [formatValue_list hr hf hplain, FormatCall.selectOr_of_select_none hselect, hseparator, hlast,
    hlimit, hmore]
  rfl

end Phrasebook
