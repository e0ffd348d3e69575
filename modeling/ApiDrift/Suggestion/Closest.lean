import ApiDrift.Suggestion.Distance
import ApiDrift.Text.Case

/-!
# The closest known name

A name that is not known is compared with the known names without regard to case. The first of the
nearest ones is suggested, unless its distance exceeds half the size of the longer name. Sizes
count octets of UTF-8.
-/

namespace ApiDrift.Suggestion

/-- The distance of two names without regard to case. -/
def caselessDistance (a b : String) : Nat :=
  distance (Text.lower a).toList (Text.lower b).toList

/-- The first of the known names that are nearest to a name, with its distance. -/
def nearest? (name : String) : (known : List String) → Option (String × Nat)
  | [] => none
  | candidate :: rest =>
    let own := caselessDistance name candidate
    match nearest? name rest with
    | some (other, distance) => if distance < own then some (other, distance)
      else some (candidate, own)
    | none => some (candidate, own)

/-- The known name to suggest for a name. -/
def closest? (name : String) (known : List String) : Option String :=
  (nearest? name known).bind fun (candidate, distance) =>
    if distance ≤ max name.utf8ByteSize candidate.utf8ByteSize / 2 then some candidate else none

/-- The hint that suggests a name. -/
def hint (name : String) : String :=
  "did you mean '" ++ name ++ "'?"

end ApiDrift.Suggestion
