import Gvpn.Proxy.Config

/-! What is left of the settings, written to `config.toml` and read again. -/

namespace Gvpn

namespace Config

variable (serverName : Text → Option Text) (config : Config)

theorem ofToml_ofConfig : ofToml (TomlConfig.ofConfig config) =
    { config with
      quotaDailyLimit := defaultQuotaDailyLimit
      quotaSafetyBuffer := defaultQuotaSafetyBuffer } := rfl

theorem validate_with_quota (dailyLimit safetyBuffer : UInt64) :
    ({ config with quotaDailyLimit := dailyLimit, quotaSafetyBuffer := safetyBuffer } :
      Config).validate serverName = config.validate serverName := rfl

end Config

open Config

/--
The settings survive the migration and the next start if and only if the two limits of the quota are
the defaults.
-/
theorem migration_lossless_iff (serverName : Text → Option Text) (config : Config) :
    let migrated := ofToml (TomlConfig.ofConfig config)
    (migrated = config ↔ config.quotaDailyLimit = defaultQuotaDailyLimit ∧
      config.quotaSafetyBuffer = defaultQuotaSafetyBuffer) ∧
    migrated = { config with
      quotaDailyLimit := migrated.quotaDailyLimit
      quotaSafetyBuffer := migrated.quotaSafetyBuffer } ∧
    migrated.validate serverName = config.validate serverName := by
  intro migrated
  have back : migrated = _ := ofToml_ofConfig config
  refine ⟨⟨?_, ?_⟩, ?_, ?_⟩
  · -- What is read back has the defaults, whatever was written.
    intro same
    rw [← same, back]
    exact ⟨rfl, rfl⟩
  · intro ⟨limit, buffer⟩
    rw [back, ← limit, ← buffer]
  · rw [back]
  · exact validate_with_quota serverName config _ _

def paidAccount : Config := { mode := lit "direct", quotaDailyLimit := 100000 }

theorem raised_limit_is_reset :
    paidAccount.validate (fun _ => none) = .ok () ∧ paidAccount.quotaDailyLimit = 100000 ∧
      (ofToml (TomlConfig.ofConfig paidAccount)).quotaDailyLimit = 20000 ∧
      ofToml (TomlConfig.ofConfig paidAccount) ≠ paidAccount :=
  ⟨by decide +kernel, rfl, rfl, fun same =>
    absurd (congrArg quotaDailyLimit same) (by decide +kernel)⟩

end Gvpn
