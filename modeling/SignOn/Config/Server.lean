import SignOn.Config.Variables
import SignOn.Text.Decimal
import SignOn.Text.Lowercase

/-! Where the service runs, what it listens on, and what it keeps its records in. -/
namespace SignOn.Config

inductive Deployment where
  | development
  | test
  | staging
  | production
  deriving DecidableEq, Repr, Inhabited

namespace Deployment

/-- The deployment that a word names; an unknown word names production, the strictest. -/
def ofText (s : String) : Deployment :=
  let word := Text.lowercase (Text.trim s)
  if word = "development" ∨ word = "dev" then development
  else if word = "test" ∨ word = "testing" then test
  else if word = "staging" ∨ word = "stage" then staging
  else production

def ofVariables (vs : Variables) : Deployment :=
  ofText (((vs "ENVIRONMENT").bind Text.Utf8.decode?).getD "production")

end Deployment

inductive Backend where
  | documents
  | memory
  deriving DecidableEq, Repr, Inhabited

def Backend.ofText (s : String) : Except Error Backend :=
  let word := Text.lowercase (Text.trim s)
  if word = "mongodb" ∨ word = "mongo" then .ok documents
  else if word = "memory" ∨ word = "in-memory" then .ok memory
  else .error ⟨.configuration, s!"STORAGE_BACKEND '{word}' is not supported (mongodb | memory)"⟩

structure Storage where
  backend : Backend
  documentsUri : String
  database : String
  cacheUrl : String
  deriving DecidableEq, Repr

def Storage.ofVariables (vs : Variables) : Except Error Storage := do
  let backend ← match vs.get? "STORAGE_BACKEND" with
    | some s => Backend.ofText s
    | none => .ok .documents
  .ok ⟨backend, vs.getD "MONGODB_URI" "mongodb://localhost:27017",
    vs.getD "DATABASE_NAME" "identity_auth_dev", vs.getD "REDIS_URL" "redis://127.0.0.1:6379"⟩

structure Server where
  host : String
  port : Nat
  deriving DecidableEq, Repr

def Server.ofVariables (vs : Variables) : Server :=
  ⟨vs.getD "HOST" "0.0.0.0", vs.readD "PORT" (Text.Decimal.below? (2 ^ 16)) 8080⟩

def Server.address (s : Server) : String := s!"{s.host}:{s.port}"

structure RateLimit where
  perSecond : Nat
  burst : Nat
  deriving DecidableEq, Repr

def RateLimit.ofVariables (vs : Variables) : RateLimit :=
  ⟨vs.readD "RATE_LIMIT_PER_SECOND" (Text.Decimal.below? (2 ^ 64)) 100,
    vs.readD "RATE_LIMIT_BURST_SIZE" (Text.Decimal.below? (2 ^ 32)) 200⟩

/-- The origins that browsers may call from, those of local development where none are set. -/
def corsOrigins (vs : Variables) : List String :=
  match vs.get? "CORS_ALLOWED_ORIGINS" with
  | some s => splitList s
  | none => ["http://localhost:3000", "http://127.0.0.1:3000", "http://localhost:8080",
      "http://127.0.0.1:8080"]

end SignOn.Config
