import SignOn.Config.Redirects
import SignOn.Config.Registration
import SignOn.Config.Server
import SignOn.Config.TokenKeys

/-! All that the service has to be told before it can start. -/
namespace SignOn

structure Config where
  deployment : Config.Deployment
  storage : Config.Storage
  registration : Config.Registration
  redirects : Config.Redirects
  tokenKeys : Config.TokenKeys
  deriving DecidableEq

/-- Reads the settings; of several faults the one of the first group of settings is told. There are
none where the build stops in the middle. -/
def Config.ofVariables (overflow : Config.Overflow) (vs : Config.Variables) :
    Except Error (Option Config) := do
  let storage ← Config.Storage.ofVariables vs
  let registration ← Config.Registration.ofVariables vs
  let redirects ← Config.Redirects.ofVariables overflow vs
  .ok (redirects.map fun r => ⟨.ofVariables vs, storage, registration, r, .ofVariables vs⟩)

end SignOn
