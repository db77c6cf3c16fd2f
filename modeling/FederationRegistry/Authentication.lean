import FederationRegistry.Connector

/-!
# How an identity provider authenticates

The claims it is asked for and its authenticators. A section without either is *empty*, and a
provider does not keep an empty one.
-/

namespace FederationRegistry

/-- The authentication section of an identity provider. -/
structure Authentication where
  requestedClaims : KeySet String := ∅
  authenticators : ConnectorMap := ∅
deriving DecidableEq, BEq

namespace Authentication

instance : Inhabited Authentication := ⟨{}⟩

/-- The section asks for nothing and has no authenticator. -/
def isEmpty (a : Authentication) : Bool := a.requestedClaims.isEmpty && a.authenticators.isEmpty

/-- The section, unless it is empty. -/
def nonempty? (a : Authentication) : Option Authentication := if a.isEmpty then none else some a

/-- An authenticator has a name and stands under it. -/
def checkAuthenticator (entry : String × Connector) : Checked Unit := do
  requireText .authenticatorName entry.1
  ConnectorMap.checkPlace .authenticator entry

/-- The first rule that the section breaks: requested claims, then authenticators. -/
def validate (a : Authentication) : Checked Unit := do
  requireAll (requireText .requestedClaim) a.requestedClaims.keys
  requireAll checkAuthenticator a.authenticators.entries

/-- The section, if it is valid. -/
def check (a : Authentication) : Checked Authentication := a.validate.map fun _ => a

/-- A change to a draft. The `set` edits keep what is there when they are given nothing. -/
inductive Edit where
  | setRequestedClaims (claims : List String)
  | addRequestedClaim (claim : String)
  | addRequestedClaims (claims : List String)
  | setAuthenticators (authenticators : List Connector)
  | addAuthenticator (authenticator : Connector)
  | addAuthenticators (authenticators : List Connector)

/-- The draft after an edit. -/
def edit (a : Authentication) : Edit → Authentication
  | .setRequestedClaims claims =>
    if claims.isEmpty then a else { a with requestedClaims := .ofList claims }
  | .addRequestedClaim claim => { a with requestedClaims := a.requestedClaims.add claim }
  | .addRequestedClaims claims => { a with requestedClaims := a.requestedClaims.addMany claims }
  | .setAuthenticators authenticators =>
    if authenticators.isEmpty then a
    else { a with authenticators := ConnectorMap.ofList authenticators }
  | .addAuthenticator authenticator =>
    { a with authenticators := ConnectorMap.add a.authenticators authenticator }
  | .addAuthenticators authenticators =>
    { a with authenticators := ConnectorMap.addMany a.authenticators authenticators }

end Authentication

end FederationRegistry
