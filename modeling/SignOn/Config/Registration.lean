import SignOn.Config.Variables
import SignOn.Text.Decimal

/-! The service's registration with GitHub, and the addresses at which to reach GitHub. -/
namespace SignOn.Config

structure Registration where
  clientId : String
  clientSecret : String
  /-- Where GitHub sends people back to, if not to the page that it was told at registration. -/
  redirectUri : Option String
  authUri : String
  tokenUri : String
  apiUri : String
  scopes : String
  /-- The seconds after which a request counts as failed. -/
  timeout : Nat
  deriving DecidableEq, Repr

def Registration.ofVariables (vs : Variables) : Except Error Registration := do
  let clientId ← vs.require "GITHUB_CLIENT_ID"
  let clientSecret ← vs.require "GITHUB_CLIENT_SECRET"
  .ok ⟨clientId, clientSecret, vs.get? "GITHUB_REDIRECT_URI",
    vs.getD "GITHUB_AUTH_URI" "https://github.com/login/oauth/authorize",
    vs.getD "GITHUB_TOKEN_URI" "https://github.com/login/oauth/access_token",
    vs.getD "GITHUB_API_URI" "https://api.github.com", vs.getD "GITHUB_SCOPES" "user:email",
    vs.readD "OAUTH_PROVIDER_TIMEOUT_SECS" (Text.Decimal.below? (2 ^ 64)) 10⟩

end SignOn.Config
