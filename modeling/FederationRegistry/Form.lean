import FederationRegistry.IdentityProvider
import FederationRegistry.ServiceProvider.Basic
import FederationRegistry.ServiceProvider.Codec

/-!
# JSON forms of aggregates

What the registry shows of identity providers, service providers and their sections. An absent
value is `null`; sets, certificates, connectors and role mappings come in order.
-/

namespace FederationRegistry

/-- The JSON form of an identifier, `null` where there is none. -/
def Id.toJson? {e : Entity} (i : Option (Id e)) : Json := Json.ofOption (Json.ofNat ·.value) i

/-- The JSON form of a dialect. -/
def ClaimDialect.toJson (d : ClaimDialect) : Json :=
  .object [("dialect_id", Json.ofNat d.id), ("local_dialect", .bool d.isLocal)]

/-- The JSON form of role mappings, with the local roles as keys in decimal digits. -/
def Metadata.roleMappingsToJson (mappings : Dict Nat String) : Json :=
  .object (mappings.entries.map fun e => (Decimal.text e.1, .string e.2))

/-- The local role that a key stands for: its decimal digits, without leading zeros. -/
def Metadata.roleKey? (key : String) : Option Nat :=
  let n := Decimal.ofDigits key.toList
  if Decimal.text n = key ∧ n < Word.unsignedLimit then some n else none

/-- The role mappings that a JSON value gives. -/
def Metadata.roleMappingsOfJson? : Json → Option (Dict Nat String)
  | .object ms => do
    let entries ← ms.mapM fun
      | (key, .string role) => (roleKey? key).map fun id => (id, role)
      | _ => none
    return Dict.ofList entries
  | _ => none

/-- The JSON form of metadata. -/
def Metadata.toJson (m : Metadata) : Json :=
  .object
    [("name", .string m.name),
      ("display_label", Json.ofText? m.displayLabel),
      ("description", Json.ofText? m.description),
      ("certificates", Json.ofDict .string m.certificates),
      ("claim_config", Json.ofOption ClaimDialect.toJson m.claimDialect),
      ("role_config", .object [("mappings", roleMappingsToJson m.roleMappings)])]

/-- The JSON form of a connector. -/
def Connector.toJson (c : Connector) : Json :=
  .object
    [("name", .string c.name),
      ("enabled", .bool c.enabled),
      ("properties", c.properties.toJson)]

/-- The JSON form of an authentication section. -/
def Authentication.toJson (a : Authentication) : Json :=
  .object
    [("requested_claims", Json.ofNames a.requestedClaims),
      ("authenticators", Json.ofDict Connector.toJson a.authenticators)]

/-- The JSON form of a provisioning claim. -/
def ProvisioningClaim.toJson (c : ProvisioningClaim) : Json :=
  .object [("claim_uri", .string c.uri), ("default_value", Json.ofText? c.defaultValue)]

/-- The JSON form of a provisioning section. -/
def Provisioning.toJson (p : Provisioning) : Json :=
  .object
    [("jit", .object [("provisioning_idps", Json.ofNames p.jitProviders)]),
      ("claims", Json.ofDict ProvisioningClaim.toJson p.claims),
      ("roles", Json.ofNames p.roles),
      ("provisioners", Json.ofDict Connector.toJson p.provisioners)]

/-- The JSON form of a variant. -/
def ProviderVariant.toJson : ProviderVariant → Json
  | .resident => .object [("kind", .string ProviderKind.resident.label)]
  | .federated settings =>
    .object
      [("kind", .string ProviderKind.federated.label),
        ("home_realm_id", Json.ofText? settings.homeRealm),
        ("federation_hub", .bool settings.isHub)]

/-- The JSON form of an identity provider. -/
def IdentityProvider.toJson (p : IdentityProvider) : Json :=
  .object
    [("id", Id.toJson? p.id),
      ("enabled", .bool p.enabled),
      ("metadata", p.metadata.toJson),
      ("authentication", Json.ofOption Authentication.toJson p.authentication),
      ("provisioning", p.provisioning.toJson),
      ("properties", p.properties.toJson),
      ("variant", p.variant.toJson)]

/-- The JSON form of a service provider. -/
def ServiceProvider.toJson (p : ServiceProvider) : Json :=
  .object
    [("id", Id.toJson? p.id),
      ("name", .string p.name),
      ("display_label", Json.ofText? p.displayLabel),
      ("description", Json.ofText? p.description),
      ("enabled", .bool p.enabled),
      ("sections", p.sections.toJson)]

end FederationRegistry
