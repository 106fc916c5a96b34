import Phrasebook.Rendering.Context

/-!
# Joining items and clipping texts

Lists and maps join the texts of their items by separators that settings may change; a limit on
their number may leave items out, with a text in their place. Clipping cuts a text to a number of
characters.
-/

namespace Phrasebook

/-! ## Joining items -/

/-- The joiner behind the items, with a separator between neighbours and another one in front of
    the last item. The flag tells that items were joined before. -/
def joinItems (separator last : Fragment) : (behind : Bool) → Joiner → List Fragment → Joiner
  | _, j, [] => j
  | behind, j, item :: items =>
    let j := if behind then j.add (if items.isEmpty then last else separator) else j
    joinItems separator last true (j.add item) items

/-- Items joined by separators. -/
def joinedItems (separator last : String) (items : List Fragment) : Fragment :=
  (joinItems (.spaced separator) (.spaced last) false {} items).toUnspaced

/-- How items are joined. -/
structure ListStyle where
  /-- The text between items. -/
  separator : String
  /-- The text in front of the last item. -/
  last : String
  /-- How many items are shown. -/
  limit : Option Nat
  /-- What stands for the items left out. -/
  more : Option Fragment
deriving Repr

/-- Joins items in a style. -/
def ListStyle.join (style : ListStyle) (items : List Fragment) : Fragment :=
  match style.limit with
  | some limit =>
    if limit < items.length then
      match style.more with
      | some more => joinedItems style.separator style.separator (items.take limit ++ [more])
      | none => joinedItems style.separator style.last (items.take limit)
    else joinedItems style.separator style.last items
  | none => joinedItems style.separator style.last items

/-- The style that the settings ask for. -/
def FormatCall.listStyle (call : FormatCall) : ListStyle :=
  let separator := (call.settingText? "list-sep").getD ", "
  { separator
    last := (call.settingText? "list-sep-last").getD separator
    limit := ((call.settingNumber? "list-max-size").filter (0 < ·)).map (·.toInt.toNat)
    more := ((call.settingText? "list-value-more").map .unspaced).filter (!·.isEmpty) }

/-! ## Clipping -/

/-- What ends a clipped text. -/
def ellipsis : String := "..."

/-- The text without surrounding whitespace, if it fits; else its beginning without whitespace at
    the end, and an ellipsis. The flags stay, and so does a text that fits. -/
def clip (limit : Nat) (fragment : Fragment) : Fragment :=
  let text := trimBlank fragment.text
  if text.length ≤ limit then fragment
  else
    let beginning := String.ofList (text.toList.take (limit - ellipsis.length))
    { fragment with text := trimBlankEnd beginning ++ ellipsis }

/-- The number of characters that the settings ask for, and no less than eight. -/
def FormatCall.clipLimit (call : FormatCall) : Nat :=
  max ((((call.settingNumber? "clip-size").map Int64.toInt).getD 64).toNat) 8

end Phrasebook
