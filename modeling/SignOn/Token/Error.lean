/-! What can go wrong with tokens and with the keys that sign them. -/
namespace SignOn.Token

inductive Error where
  /-- A signature, a structure or a claim that does not hold. -/
  | invalidToken (reason : String)
  | tokenNotFound
  | claimMissing (claim : String)
  | claimMalformed (claim reason : String)
  /-- A key that cannot be read, or two that do not belong together. -/
  | keyMaterialInvalid (reason : String)
  | signing (reason : String)
  deriving DecidableEq, Repr

def Error.message : Error → String
  | .invalidToken r => s!"invalid token: {r}"
  | .tokenNotFound => "token not found"
  | .claimMissing c => s!"claim '{c}' is missing"
  | .claimMalformed c r => s!"claim '{c}' is malformed: {r}"
  | .keyMaterialInvalid r => s!"invalid key material: {r}"
  | .signing r => s!"failed to sign token: {r}"

end SignOn.Token
