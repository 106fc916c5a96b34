import Phrasebook.Bundle
import Phrasebook.Sharing.Reading

/-!
# Compiling tables with a pool

The messages of a table are shared like those of single templates. The codes of the table take turns
with one pool.
-/

namespace Phrasebook

namespace Pool

/-- Compiles groups into messages with variants. -/
def compileGroups :
    List Bundle.CodeGroup → ExceptT TemplateError (StateM Pool) (List (String × Message))
  | [] => return []
  | (code, templates) :: groups => do
    let shared ← parseLocalized (some code) templates
    return (code, shared.message) :: (← compileGroups groups)

/-- Compiles a table. A row that repeats code and locale of an earlier one leaves the pool as it is.
    -/
def compile (rows : List TableRow) : ExceptT BundleFailure (StateM Pool) Bundle := do
  let grouped : Except BundleFailure (List Bundle.CodeGroup) :=
    (Bundle.groupRows rows).mapError .bundle
  let groups ← grouped
  return ⟨← (compileGroups groups).adapt .template⟩

end Pool

end Phrasebook
