/-
  Credentials for image registries.
-/
import DeployConfig.Binding.Slot

namespace DeployConfig

/-- Credentials for pushing to and pulling from image registries; `push` and `pull` hold what
    differs in one direction. -/
structure RegistryAuth where
  username : Option String := none
  password : Option String := none
  email : Option String := none
  authToken : Option String := none
  push : OrderedMap String := .empty
  pull : OrderedMap String := .empty
  deriving DecidableEq

instance : Bindable RegistryAuth where
  kind := "authConfig"
  empty := {}
  slots := [
    .optional "username" .string (.mk (·.username) fun t v => { t with username := v }),
    .optional "password" .string (.mk (·.password) fun t v => { t with password := v }),
    .optional "email" .string (.mk (·.email) fun t v => { t with email := v }),
    .optional "authToken" .string (.mk (·.authToken) fun t v => { t with authToken := v }),
    .whole "push" .stringMap (.mk (·.push) fun t v => { t with push := v }),
    .whole "pull" .stringMap (.mk (·.pull) fun t v => { t with pull := v })]

instance : Writable RegistryAuth where
  fields r := [
    ("username", r.username.map .string),
    ("password", r.password.map .string),
    ("email", r.email.map .string),
    ("authToken", r.authToken.map .string),
    ("push", Writable.map .string r.push),
    ("pull", Writable.map .string r.pull)]

end DeployConfig
