import Mathlib.Data.List.Basic
import SignedResponse.Http.Header

/-!
Which values a look-up finds.

A text names a header by its letters in lower case, so letter case makes no difference anywhere. Of
several values the first one is read, and what is done to other names or after the first value is
not seen.
-/

namespace SignedResponse

namespace Token

theorem is_token_char_of_to_lower {char : Char} (legal : isTokenChar char.toLower = true) :
    isTokenChar char = true := by
  unfold Char.toLower at legal
  split at legal
  · rename_i upper
    have capital : char.isUpper = true := decide_eq_true upper
    have alpha : char.isAlpha = true := Bool.or_eq_true_iff.mpr (Or.inl capital)
    have alphanum : char.isAlphanum = true := Bool.or_eq_true_iff.mpr (Or.inl alpha)
    exact Bool.or_eq_true_iff.mpr (Or.inl alphanum)
  · exact legal

end Token

def SameLetters (left right : String) : Prop :=
  left.toList.map Char.toLower = right.toList.map Char.toLower

instance (left right : String) : Decidable (SameLetters left right) :=
  inferInstanceAs (Decidable (_ = _))

namespace HeaderName

theorem eq_of_chars_eq {left right : HeaderName} (same : left.token.chars = right.token.chars) :
    left = right := by
  obtain ⟨⟨chars, _, _⟩, _, _⟩ := left
  obtain ⟨⟨others, _, _⟩, _, _⟩ := right
  cases same
  rfl

/-- A text names the header whose name it is in lower case. -/
theorem of_text_eq_ok_iff {text : String} {name : HeaderName} :
    ofText text = .ok name ↔ text.toList.map Char.toLower = name.token.chars := by
  constructor
  · intro named
    unfold ofText Token.ofText? at named
    split_ifs at named with valid
    · dsimp only at named
      split_ifs at named with fits
      · cases named
        rfl
  · intro lower
    have nonempty : text.toList ≠ [] := by
      intro empty
      rw [empty] at lower
      exact name.token.nonempty lower.symm
    have legal : text.toList.all Token.isTokenChar = true := by
      rw [List.all_eq_true]
      intro char member
      apply Token.is_token_char_of_to_lower
      apply List.all_eq_true.mp name.token.legal
      rw [← lower]
      exact List.mem_map_of_mem member
    have fits : (text.toList.map Char.toLower).length ≤ maxLength := by
      rw [lower]
      exact name.fits
    have token : Token.ofText? text = some ⟨text.toList, nonempty, legal⟩ :=
      dif_pos ⟨nonempty, legal⟩
    rw [ofText, token]
    refine (dif_pos fits).trans ?_
    rw [Except.ok.injEq]
    exact eq_of_chars_eq lower

theorem of_text_eq_error {text : String} {error : HttpError}
    (refused : ofText text = .error error) : error = .headerName := by
  unfold ofText at refused
  split at refused
  · split_ifs at refused
    cases refused
    rfl
  · cases refused
    rfl

theorem of_text_of_same_letters {left right : String} (same : SameLetters left right) :
    ofText left = ofText right := by
  have named : ∀ name, ofText left = .ok name ↔ ofText right = .ok name := by
    intro name
    rw [of_text_eq_ok_iff, of_text_eq_ok_iff, same]
  cases found : ofText left with
  | ok name => exact ((named name).mp found).symm
  | error error =>
      cases other : ofText right with
      | ok name =>
          rw [(named name).mpr other] at found
          cases found
      | error reason => rw [of_text_eq_error found, of_text_eq_error other]

end HeaderName

namespace Headers

variable {headers others : Headers} {text : String} {name : HeaderName}

theorem values_of_of_named (named : HeaderName.ofText text = .ok name) :
    headers.valuesOf text = headers.values name := by
  rw [valuesOf, named]

theorem values_of_of_same_letters {left right : String} (same : SameLetters left right) :
    headers.valuesOf left = headers.valuesOf right := by
  rw [valuesOf, valuesOf, HeaderName.of_text_of_same_letters same]

theorem text_of_same_letters {left right : String} (same : SameLetters left right) :
    headers.text? left = headers.text? right := by
  rw [text?, text?, values_of_of_same_letters same]

theorem text_eq_of_values (same : ∀ name, HeaderName.ofText text = .ok name →
      (headers.values name).head?.bind HeaderValue.text? =
        (others.values name).head?.bind HeaderValue.text?) :
    headers.text? text = others.text? text := by
  cases named : HeaderName.ofText text with
  | ok name =>
      rw [text?, text?, values_of_of_named named, values_of_of_named named, same name named]
  | error error => rw [text?, text?, valuesOf, valuesOf, named]

theorem text_append_of_present (value : HeaderValue) (present : headers.values name ≠ []) :
    (headers.append name value).text? text = headers.text? text := by
  apply text_eq_of_values
  intro other _
  rw [values_append]
  by_cases same : name = other
  · subst same
    rw [List.head?_append_of_ne_nil _ present]
  · rw [if_neg same, List.append_nil]

theorem text_of_elsewhere (unrelated : HeaderName.ofText text ≠ .ok name)
    (elsewhere : ∀ other, other ≠ name → headers.values other = others.values other) :
    headers.text? text = others.text? text := by
  apply text_eq_of_values
  intro other named
  rw [elsewhere other]
  rintro rfl
  exact unrelated named

/-- A name whose first value is unreadable reads as one that is absent. -/
theorem text_remove_of_unreadable
    (unreadable : (headers.values name).head?.bind HeaderValue.text? = none) :
    (headers.remove name).text? text = headers.text? text := by
  apply text_eq_of_values
  intro other _
  rw [values_remove]
  by_cases same : other = name
  · subst same
    rw [if_pos rfl, unreadable]
    rfl
  · rw [if_neg same]

theorem text_of_unreadable_first {first : HeaderValue} {rest : List HeaderValue}
    (values : headers.valuesOf text = first :: rest) (unreadable : first.text? = none) :
    headers.text? text = none := by
  rw [text?, values]
  exact unreadable

end Headers

end SignedResponse
