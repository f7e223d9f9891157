import Tekroo.Kernel.Types
import Mathlib.Data.List.Infix

namespace Tekroo.Kernel

/-! # Operator role, human participants and human interactions

Texts the source compares with fixed words are enumerations; `other` is any other text.
-/

inductive OperatorCapability where
  | coordinateDag | inspectOrganization | inspectExecution | invokeAuthorizedCommand
  | prepareDecision | proposeAssignment | proposeDecomposition | proposeEscalation
  | routeHumanRequired | surfaceOperationalCondition
  | other (text : String)
deriving DecidableEq

structure OperatorRoleProfile where
  bindingID : UUIDv7
  roleID : String
  operatorActorFQN : ActorFQN
  roleBundleVersion : String
  roleBundleDigest : Digest
  roleBundleSignatureEvidenceIDs : List UUIDv7
  roleDefinitionDigest : Digest
  capabilityIDs : List OperatorCapability
  humanSelectionPolicyRevision : Nat
  humanSelectionPolicyDigest : Digest
  authorityPolicyRevision : Nat
  authorityPolicyDigest : Digest
  replacesBindingID : Option UUIDv7
deriving DecidableEq

def validOperatorCapabilities (values : List OperatorCapability) : Bool :=
  decide (1 ≤ values.length) && decide (values.length ≤ 10) && decide values.Nodup &&
    values.all fun
      | .other _ => false
      | _ => true

def OperatorRoleProfile.valid (profile : OperatorRoleProfile) : Bool :=
  profile.bindingID.valid && profile.roleID == "operator" &&
    profile.operatorActorFQN.valid &&
    decide ("::operator-".toList <:+: profile.operatorActorFQN.text.toList) &&
    profile.roleBundleVersion != "" && decide (profile.roleBundleVersion.utf8ByteSize ≤ 128) &&
    profile.roleBundleDigest.valid && profile.roleDefinitionDigest.valid &&
    validUniqueUUIDs profile.roleBundleSignatureEvidenceIDs 1 16 &&
    validOperatorCapabilities profile.capabilityIDs &&
    decide (0 < profile.humanSelectionPolicyRevision) &&
    profile.humanSelectionPolicyDigest.valid &&
    decide (0 < profile.authorityPolicyRevision) && profile.authorityPolicyDigest.valid &&
    profile.replacesBindingID.all UUIDv7.valid

inductive Confidentiality where
  | publicLevel | internal | confidential | restricted
  | other (text : String)
deriving DecidableEq

namespace Confidentiality

def valid : Confidentiality → Bool
  | .other _ => false
  | _ => true

/-- `confidentialityRank`; an unknown text ranks below every level. -/
def rank : Confidentiality → Int
  | .publicLevel => 0
  | .internal => 1
  | .confidential => 2
  | .restricted => 3
  | .other _ => -1

end Confidentiality

inductive HumanRoleClass where
  | approver | client | endUser | principal | projectDefined | sme
  | other (text : String)
deriving DecidableEq

inductive HumanScopeKind where
  | domain | project | system | work
  | other (text : String)
deriving DecidableEq

inductive AuthenticationMethod where
  | apiCredential | channelIdentity | inPersonAttestation | magicLink | oidc | webauthn
  | other (text : String)
deriving DecidableEq

inductive Assurance where
  | high | standard
  | other (text : String)
deriving DecidableEq

inductive DeliveryChannel where
  | email | otherChannel | slack | sms | teams | webPortal
  | other (text : String)
deriving DecidableEq

def validHumanRoleClass : HumanRoleClass → Bool
  | .other _ => false
  | _ => true

def validHumanScopeKind : HumanScopeKind → Bool
  | .other _ => false
  | _ => true

def validAuthenticationMethod : AuthenticationMethod → Bool
  | .other _ => false
  | _ => true

def validAssurance : Assurance → Bool
  | .other _ => false
  | _ => true

def validDeliveryChannel : DeliveryChannel → Bool
  | .other _ => false
  | _ => true

structure HumanRoleBinding where
  roleBindingID : UUIDv7
  roleClass : HumanRoleClass
  roleID : String
  scopeKind : HumanScopeKind
  scopeID : String
  advisoryTopicIDs : List String
  authorizedCommandTypes : List String
  authorityPolicyRevision : Nat
  authorityPolicyDigest : Digest
  validFrom : Time
  validUntil : Option Time
  active : Bool
  evidenceIDs : List UUIDv7
deriving DecidableEq

def HumanRoleBinding.current (binding : HumanRoleBinding) (moment : Time) : Bool :=
  binding.active && decide (binding.validFrom ≤ moment) &&
    binding.validUntil.all (fun validUntil => decide (moment < validUntil))

structure HumanAuthenticationBinding where
  authenticationBindingID : UUIDv7
  method : AuthenticationMethod
  issuerDigest : Digest
  subjectDigest : Digest
  assurance : Assurance
  bindingRevision : Nat
  active : Bool
  evidenceIDs : List UUIDv7
deriving DecidableEq

structure HumanDeliveryBinding where
  deliveryBindingID : UUIDv7
  channel : DeliveryChannel
  endpointDigest : Digest
  adapterProfileDigest : Digest
  confidentialityCeiling : Confidentiality
  authenticationBindingIDs : List UUIDv7
  bindingRevision : Nat
  active : Bool
  evidenceIDs : List UUIDv7
deriving DecidableEq

structure HumanParticipantSnapshot where
  participant : PrincipalRef
  revision : Nat
  profileID : UUIDv7
  profileRevision : Nat
  profileDigest : Digest
  displayLabel : String
  privacyClassification : Confidentiality
  roleBindings : List HumanRoleBinding
  authenticationBindings : List HumanAuthenticationBinding
  deliveryBindings : List HumanDeliveryBinding
  participantPolicyRevision : Nat
  participantPolicyDigest : Digest
  supersedesProfileID : Option UUIDv7
  active : Bool
deriving DecidableEq

/-- `^tekroo\.command\.[a-z0-9]+(?:[.-][a-z0-9]+)*$` -/
def humanAuthorizedCommandPattern (value : String) : Bool :=
  "tekroo.command.".toList.isPrefixOf value.toList &&
    ((value.toList.drop "tekroo.command.".length).splitOnP
      (fun char => char == '.' || char == '-')).all
      (fun segment => !segment.isEmpty && segment.all ActorFQN.labelEnd)

def validAuthorizedCommandTypes (values : List String) : Bool :=
  validUniqueStrings values 0 64 && values.all humanAuthorizedCommandPattern

def HumanAuthenticationBinding.valid (binding : HumanAuthenticationBinding) : Bool :=
  binding.authenticationBindingID.valid && validAuthenticationMethod binding.method &&
    binding.issuerDigest.valid && binding.subjectDigest.valid &&
    validAssurance binding.assurance && decide (0 < binding.bindingRevision) &&
    binding.active && validUniqueUUIDs binding.evidenceIDs 1 64

def HumanRoleBinding.valid (binding : HumanRoleBinding) : Bool :=
  binding.roleBindingID.valid && validHumanRoleClass binding.roleClass &&
    binding.roleID != "" && decide (binding.roleID.utf8ByteSize ≤ 128) &&
    validHumanScopeKind binding.scopeKind &&
    binding.scopeID != "" && decide (binding.scopeID.utf8ByteSize ≤ 256) &&
    validUniqueStrings binding.advisoryTopicIDs 0 64 &&
    validAuthorizedCommandTypes binding.authorizedCommandTypes &&
    decide (0 < binding.authorityPolicyRevision) && binding.authorityPolicyDigest.valid &&
    !binding.validFrom.isZero &&
    binding.validUntil.all (fun validUntil => decide (binding.validFrom < validUntil)) &&
    binding.active && validUniqueUUIDs binding.evidenceIDs 1 64

def HumanDeliveryBinding.valid (authenticated : List UUIDv7)
    (binding : HumanDeliveryBinding) : Bool :=
  binding.deliveryBindingID.valid && validDeliveryChannel binding.channel &&
    binding.endpointDigest.valid && binding.adapterProfileDigest.valid &&
    binding.confidentialityCeiling.valid && decide (0 < binding.bindingRevision) &&
    binding.active && validUniqueUUIDs binding.authenticationBindingIDs 1 16 &&
    validUniqueUUIDs binding.evidenceIDs 1 64 &&
    binding.authenticationBindingIDs.all authenticated.contains

variable (snapshot : HumanParticipantSnapshot)

def HumanParticipantSnapshot.valid : Bool :=
  snapshot.participant.kind == .human && snapshot.participant.valid &&
    decide (0 < snapshot.revision) && snapshot.profileID.valid &&
    decide (0 < snapshot.profileRevision) && snapshot.profileDigest.valid &&
    snapshot.displayLabel != "" && decide (snapshot.displayLabel.utf8ByteSize ≤ 256) &&
    snapshot.privacyClassification.valid &&
    decide (0 < snapshot.participantPolicyRevision) && snapshot.participantPolicyDigest.valid &&
    snapshot.supersedesProfileID.all
      (fun profile => profile.valid && profile != snapshot.profileID) &&
    decide (1 ≤ snapshot.roleBindings.length) && decide (snapshot.roleBindings.length ≤ 64) &&
    decide (1 ≤ snapshot.authenticationBindings.length) &&
    decide (snapshot.authenticationBindings.length ≤ 32) &&
    decide (1 ≤ snapshot.deliveryBindings.length) &&
    decide (snapshot.deliveryBindings.length ≤ 32) &&
    snapshot.authenticationBindings.all HumanAuthenticationBinding.valid &&
    decide (snapshot.authenticationBindings.map (·.authenticationBindingID)).Nodup &&
    snapshot.roleBindings.all HumanRoleBinding.valid &&
    decide (snapshot.roleBindings.map (·.roleBindingID)).Nodup &&
    snapshot.deliveryBindings.all
      (HumanDeliveryBinding.valid
        (snapshot.authenticationBindings.map (·.authenticationBindingID))) &&
    decide (snapshot.deliveryBindings.map (·.deliveryBindingID)).Nodup

def HumanParticipantSnapshot.authentication (id : UUIDv7) : Option HumanAuthenticationBinding :=
  if snapshot.active then
    snapshot.authenticationBindings.find? fun binding =>
      binding.authenticationBindingID == id && binding.active
  else none

def HumanParticipantSnapshot.delivery (id : UUIDv7) (requested : Confidentiality) :
    Option HumanDeliveryBinding :=
  if snapshot.active then
    snapshot.deliveryBindings.find? fun binding =>
      binding.deliveryBindingID == id && binding.active &&
        decide (requested.rank ≤ binding.confidentialityCeiling.rank)
  else none

def profileHasRole (profile : HumanParticipantSnapshot) (roleID : UUIDv7)
    (moment : Time) : Bool :=
  profile.roleBindings.any fun role => role.roleBindingID == roleID && role.current moment

end Tekroo.Kernel
