import EditorSession.Domain.Direction
import EditorSession.Domain.Label

/-! Domains in ASCII.

A domain is mapped, brought into canonical form and divided into labels, each of which is written in
ASCII. If some character of a domain runs from right to left, each of its labels has to run in one
direction. -/

namespace EditorSession
namespace Domain

/-- The labels of a domain. The characters that `forbidden` holds for may not be in it. -/
def labels? (forbidden : Char → Bool) (cs : List Char) : Option (List Label) := do
  let mapped := canonical (← Mapping.text? cs)
  if mapped.any forbidden then none
  let labels ← (mapped.splitOn '.').mapM (Label.ofMapped? forbidden)
  if labels.any (·.chars.any Direction.isRightward)
      && !labels.all (Direction.isUniform ·.chars)
  then none else some labels

/-- The domain in lower-case ASCII. -/
def ascii? (forbidden : Char → Bool) (cs : List Char) : Option (List Char) :=
  (labels? forbidden cs).map fun labels => ['.'].intercalate (labels.map (·.ascii))

end Domain

end EditorSession
