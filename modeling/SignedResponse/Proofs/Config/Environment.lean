import SignedResponse.Config.Settings

/-!
Settings from the environment: two variables, each read by itself.

The settings are put together from what the two say. The mode is looked at first, so its fault is
told whatever the size is.
-/

namespace SignedResponse.Config

def modeOf (environment : Environment) : Except ConfigError Mode :=
  match environment.text? "RV_VERIFICATION_MODE" with
  | none => .ok .informational
  | some text => Mode.ofText text

def nonceSizeOf (environment : Environment) : Except ConfigError UInt64 :=
  match environment.text? "RV_NONCE_SIZE" with
  | none => .ok 12
  | some text =>
      match Decimal.read? UInt64.size text.toList with
      | some (size + 1) => .ok (.ofNat (size + 1))
      | _ => .error (.nonceSize text)

theorem of_environment_eq (environment : Environment) :
    ofEnvironment environment =
      (modeOf environment).bind fun mode =>
        (nonceSizeOf environment).bind fun nonceSize => .ok { mode, nonceSize } := by
  unfold ofEnvironment modeOf nonceSizeOf
  -- The size is unset, or its text is no number, zero, or a number that can be used.
  rcases environment.text? "RV_NONCE_SIZE" with _ | text
  case' some =>
    dsimp only
    rcases Decimal.read? UInt64.size text.toList with _ | _ | size
  all_goals
    rcases environment.text? "RV_VERIFICATION_MODE" with _ | name
    · rfl
    · dsimp only
      cases Mode.ofText name <;> rfl

theorem nonce_size_of_cases (environment : Environment) :
    (∃ size, nonceSizeOf environment = .ok size) ∨
      ∃ text, environment.text? "RV_NONCE_SIZE" = some text ∧
        nonceSizeOf environment = .error (.nonceSize text) := by
  unfold nonceSizeOf
  cases environment.text? "RV_NONCE_SIZE" with
  | none => exact Or.inl ⟨12, rfl⟩
  | some text =>
      dsimp only
      split
      · exact Or.inl ⟨_, rfl⟩
      · exact Or.inr ⟨text, rfl, rfl⟩

end SignedResponse.Config
