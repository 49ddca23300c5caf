import SignOn.Error
import SignOn.GitHub.Reply
import SignOn.Identity.Basic
import SignOn.Login.Pending
import SignOn.Routine
import SignOn.User

/-!
What a sign-on calls on: the clock, chance, the provider, and the stores of pending sign-ons,
identities and users.
-/
namespace SignOn.Login

inductive Call where
  | now
  /-- Bytes for a state that nobody can guess. -/
  | drawState
  | drawId
  /-- Keeps a record for a time. The store may stop in the middle, and the caller with it. -/
  | savePending (state : String) (pending : Pending)
  /-- Takes the record of a state away; of several takes one gets it. -/
  | takePending (state : String)
  /-- Turns a code into an access token. -/
  | exchange (code : String)
  | profile (accessToken : String)
  | addresses (accessToken : String)
  | loadIdentity (id : Uuid)
  | findIdentity (account : Account)
  /-- Stores an identity unless its account has one, and answers the one that is stored. -/
  | createIdentity (identity : Identity)
  /-- Stores a user unless its account has one, and answers the one that is stored. -/
  | createUser (user : User)
  deriving DecidableEq

abbrev Call.Answer : Call → Type
  | now => Moment
  | drawState => List UInt8
  | drawId => Uuid
  | savePending _ _ => Option (Except Error Unit)
  | takePending _ => Except Error (Option Pending)
  | exchange _ => Except Error String
  | profile _ => Except Error GitHub.Profile
  | addresses _ => Except Error (List GitHub.Address)
  | loadIdentity _ => Except Error (Option Identity)
  | findIdentity _ => Except Error (Option Identity)
  | createIdentity _ => Except Error Identity
  | createUser _ => Except Error User

abbrev services : Interface := ⟨Call, Call.Answer⟩

def ask (c : Call) : Routine services c.Answer := @Routine.call services c

end SignOn.Login
