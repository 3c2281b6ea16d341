/-!
Sets of characters given by ascending ranges of code points, as Unicode properties are.
-/

namespace SignedResponse.Ranges

/-- Whether one of the ranges holds the code point. The ranges ascend, so the first one that lies
beyond the code point ends the search. -/
def contains : List (Nat × Nat) → Nat → Bool
  | [], _ => false
  | (first, last) :: rest, code =>
      if code < first then false else code ≤ last || contains rest code

end SignedResponse.Ranges
