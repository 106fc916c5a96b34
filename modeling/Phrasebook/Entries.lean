/-!
# Named entries

Lists of names and values in which no name repeats. A new value of a known name takes the place of
the old one.
-/

namespace Phrasebook

variable {α : Type}

/-- Adds an entry at the end, or a value in the old place of its name. -/
def putEntry (name : String) (value : α) : List (String × α) → List (String × α)
  | [] => [(name, value)]
  | (key, old) :: entries =>
    if name = key then (key, value) :: entries else (key, old) :: putEntry name value entries

/-- The entries without repetition: the last value of a name counts, in the place of the first. -/
def lastEntries (entries : List (String × α)) : List (String × α) :=
  entries.foldl (fun kept entry => putEntry entry.1 entry.2 kept) []

/-- Putting changes the value of one name and no other. -/
theorem lookup_putEntry (name key : String) (value : α) (entries : List (String × α)) :
    (putEntry name value entries).lookup key =
      if key = name then some value else entries.lookup key := by
  induction entries with
  | nil => by_cases h : key = name <;> simp [putEntry, List.lookup_cons, h, beq_false_of_ne]
  | cons e es ih =>
    obtain ⟨k, old⟩ := e
    by_cases hn : name = k
    · subst hn
      by_cases h : key = name <;> simp [putEntry, List.lookup_cons, h, beq_false_of_ne]
    · by_cases h : key = k
      · subst h
        have : ¬ key = name := fun e => hn e.symm
        simp [putEntry, hn, this]
      · simp [putEntry, hn, List.lookup_cons, beq_false_of_ne h, ih]

end Phrasebook
