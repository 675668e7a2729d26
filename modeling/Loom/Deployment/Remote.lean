import Loom.Deployment.Compose

/-!
# Remote deployment

`loom_v2/deployment/remote.py`.
-/

namespace Loom

namespace Deployment

open Replacement (replaceAll)

/-- The texts that `_redact` replaces. -/
def redactedWords (config : DeploymentConfig) : List (List Char) :=
  ([config.internalApiSecret.chars, config.postgresPassword.chars, config.minioSecretKey.chars] ++
    config.codexApiKey.toList.map Secret.chars ++
    [quote config.postgresPassword.chars, quote config.minioSecretKey.chars]).filter (· ≠ [])

/-- `_redact`. -/
def redact (config : DeploymentConfig) (value : List Char) : List Char :=
  replaceAll (redactedWords config) redacted value

end Deployment

end Loom
