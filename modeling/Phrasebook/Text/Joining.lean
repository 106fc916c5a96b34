/-!
# Joining texts with a separator
-/

namespace Phrasebook

/-- The texts in order with the separator between neighbours. -/
def joinWith (separator : String) : List String → String
  | [] => ""
  | [s] => s
  | s :: t :: ts => s ++ separator ++ joinWith separator (t :: ts)

@[simp] theorem joinWith_nil (separator : String) : joinWith separator [] = "" := rfl

@[simp] theorem joinWith_singleton (separator s : String) : joinWith separator [s] = s := rfl

theorem joinWith_cons_cons (separator s t : String) (ts : List String) :
    joinWith separator (s :: t :: ts) = s ++ separator ++ joinWith separator (t :: ts) := rfl

end Phrasebook
