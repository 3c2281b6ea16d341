import SignedResponse.Proofs.Config.Environment
import SignedResponse.Proofs.Http.HeaderLookup
import SignedResponse.Proofs.Text.Blank
import SignedResponse.Proofs.Text.Lowercase

/-!
The texts that name a mode.

The lower case of all scripts is applied to what is given, and still a mode is named by nothing but
its own name, with blanks around it and ASCII letters in either case as one likes. What names no
mode is told without its blanks and in lower case.
-/

namespace SignedResponse

open Blank (IsCore isBlank)

namespace Mode

variable {mode : Mode} {text : String}

/-- Without the blanks around it the text is the name of the mode, up to the case of its letters. -/
def IsNamedBy (mode : Mode) (text : String) : Prop :=
  ∃ core, IsCore text.toList core ∧ SameLetters (String.ofList core) mode.text

def givenName (text : String) : String :=
  String.ofList (Lowercase.ofChars (Blank.trim text.toList))

theorem find_text_eq_some_iff {name : String} :
    (all.find? fun mode => mode.text = name) = some mode ↔ mode.text = name := by
  constructor
  · intro found
    simpa using List.find?_some found
  · rintro rfl
    cases mode <;> decide

def ofName (name : String) : Except ConfigError Mode :=
  match all.find? fun mode => mode.text = name with
  | some mode => .ok mode
  | none => .error (.mode name)

theorem of_text_eq (text : String) : ofText text = ofName (givenName text) := rfl

theorem of_name_eq_ok_iff {name : String} : ofName name = .ok mode ↔ mode.text = name := by
  rw [← find_text_eq_some_iff, ofName]
  cases all.find? fun mode => mode.text = name <;> simp

theorem of_name_of_unnamed {name : String} (unnamed : ∀ mode : Mode, mode.text ≠ name) :
    ofName name = .error (.mode name) := by
  have absent : (all.find? fun mode => mode.text = name) = none := by
    simpa using fun mode _ => unnamed mode
  rw [ofName, absent]

/-- None of the names has a letter that a character beyond ASCII could become. -/
theorem is_plain_letter_of_mem_text (mode : Mode) :
    ∀ letter ∈ mode.text.toList, Lowercase.IsPlainLetter letter := by
  cases mode <;> simp [Mode.text] <;> decide

theorem is_named_by_iff : mode.IsNamedBy text ↔ mode.text = givenName text := by
  have small : mode.text.toList.map Char.toLower = mode.text.toList := by
    cases mode <;> decide
  rw [givenName, eq_comm, ← String.toList_inj, String.toList_ofList,
    Lowercase.of_chars_eq_iff (is_plain_letter_of_mem_text mode)]
  simp [IsNamedBy, Blank.is_core_iff, SameLetters, small]

theorem of_text_eq_ok_iff : ofText text = .ok mode ↔ mode.IsNamedBy text := by
  rw [of_text_eq, of_name_eq_ok_iff, is_named_by_iff]

theorem of_text_eq_error_iff {error : ConfigError} :
    ofText text = .error error ↔ (∀ mode : Mode, ¬ mode.IsNamedBy text) ∧
      ∃ core, IsCore text.toList core ∧
        error = .mode (String.ofList (Lowercase.ofChars core)) := by
  simp only [is_named_by_iff, Blank.is_core_iff, exists_eq_left', of_text_eq]
  constructor
  · intro refused
    have unnamed : ∀ mode : Mode, mode.text ≠ givenName text := by
      intro mode named
      rw [of_name_eq_ok_iff.mpr named] at refused
      cases refused
    rw [of_name_of_unnamed unnamed] at refused
    exact ⟨unnamed, (Except.error.inj refused).symm⟩
  · rintro ⟨unnamed, rfl⟩
    exact of_name_of_unnamed unnamed

theorem trim_map_to_lower (chars : List Char) :
    Blank.trim (chars.map Char.toLower) = (Blank.trim chars).map Char.toLower := by
  have kept : isBlank ∘ Char.toLower = isBlank := by
    funext char
    exact Lowercase.contains_to_lower (by decide)
  simp only [Blank.trim, List.dropWhile_map, kept, ← List.map_reverse]

theorem given_name_respelled {respelled : String} {before after : List Char}
    (same : SameLetters text respelled) (blankBefore : ∀ char ∈ before, isBlank char = true)
    (blankAfter : ∀ char ∈ after, isBlank char = true) :
    givenName (String.ofList (before ++ (respelled.toList ++ after))) = givenName text := by
  have core : Blank.trim (before ++ (respelled.toList ++ after)) = Blank.trim respelled.toList :=
    ((Blank.is_core_trim _).surround blankBefore blankAfter).trim_eq
  rw [givenName, givenName, String.toList_ofList, core,
    ← Lowercase.of_chars_map_to_lower (Blank.trim text.toList), ← trim_map_to_lower, same,
    trim_map_to_lower, Lowercase.of_chars_map_to_lower]

/-- A text names a mode exactly if, without the blanks around it, it is the name of the mode up to
the case of ASCII letters. Any other text is refused and told without its blanks and in lower case.
So blanks around a text and the case of its ASCII letters change neither answer. What the variable
of the environment is set to decides the mode of the settings or refuses them, whatever the other
variable says. -/
theorem mode_text_grammar :
    (∀ (text : String) (mode : Mode), ofText text = .ok mode ↔ mode.IsNamedBy text) ∧
    (∀ (text : String) (error : ConfigError),
      ofText text = .error error ↔ (∀ mode : Mode, ¬ mode.IsNamedBy text) ∧
        ∃ core, IsCore text.toList core ∧
          error = .mode (String.ofList (Lowercase.ofChars core))) ∧
    (∀ (text respelled : String) (before after : List Char), SameLetters text respelled →
      (∀ char ∈ before, isBlank char = true) → (∀ char ∈ after, isBlank char = true) →
      ofText (String.ofList (before ++ (respelled.toList ++ after))) = ofText text) ∧
    ∀ (environment : Environment) (text : String),
      environment.text? "RV_VERIFICATION_MODE" = some text →
      (∀ error, ofText text = .error error → Config.ofEnvironment environment = .error error) ∧
      ∀ mode, ofText text = .ok mode →
        (∃ config, Config.ofEnvironment environment = .ok config ∧ config.mode = mode) ∨
          ∃ size, environment.text? "RV_NONCE_SIZE" = some size ∧
            Config.ofEnvironment environment = .error (.nonceSize size) := by
  refine ⟨fun _ _ => of_text_eq_ok_iff, fun _ _ => of_text_eq_error_iff, ?_, ?_⟩
  · intro text respelled before after same blankBefore blankAfter
    rw [of_text_eq, of_text_eq, given_name_respelled same blankBefore blankAfter]
  · intro environment text given
    have modeOf : Config.modeOf environment = ofText text := by rw [Config.modeOf, given]
    rw [Config.of_environment_eq, modeOf]
    constructor
    · intro error refused
      rw [refused]
      rfl
    · intro mode named
      rw [named]
      rcases Config.nonce_size_of_cases environment with ⟨size, usable⟩ | ⟨size, set, refused⟩
      · left
        rw [usable]
        exact ⟨_, rfl, rfl⟩
      · right
        rw [refused]
        exact ⟨size, set, rfl⟩

/-- A wide space and a tab around a name in mixed case do no harm, while a capital i with a dot is
no `i`. A mode that cannot be used is told although the size cannot be used either. -/
theorem spelled_modes :
    ofText (String.ofList (['\u3000'] ++ ("EnForced".toList ++ ['\t']))) = .ok .enforced ∧
      ofText "D\u0130sabled" = .error (.mode "di\u0307sabled") ∧
      Config.ofEnvironment (.ofList [("RV_VERIFICATION_MODE", Utf8.encode " Strict"),
        ("RV_NONCE_SIZE", [0x30])]) = .error (.mode "strict") := by
  obtain ⟨named, refused, respelled, environments⟩ := mode_text_grammar
  have plain : ofText "enforced" = .ok .enforced :=
    (named _ _).mpr
      ⟨"enforced".toList, Blank.is_core_iff.mpr (by decide), by decide⟩
  refine ⟨?_, ?_, ?_⟩
  · exact (respelled "enforced" "EnForced" ['\u3000'] ['\t'] (by decide)
      (List.forall_mem_singleton.mpr (by decide)) (List.forall_mem_singleton.mpr (by decide))).trans
      plain
  · refine (refused _ _).mpr ⟨?_, "D\u0130sabled".toList, ?_, ?_⟩
    · intro mode
      rw [is_named_by_iff]
      cases mode <;> decide
    · exact Blank.is_core_iff.mpr (by decide)
    · decide
  · apply (environments _ " Strict" (by decide)).1
    decide

end Mode

end SignedResponse
