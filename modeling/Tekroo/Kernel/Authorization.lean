import Tekroo.Kernel.Projection

namespace Tekroo.Kernel

/-! # Authorization policy -/

def maxDelegationDepth : Nat := 4

structure AuthorizationResult where
  allowed : Bool := false
  canReadTarget : Bool := false
  reasonCode : String
  grantDigests : List Digest := []
  delegationDigests : List Digest := []

def expired (expiry : Option Time) (now : Time) : Bool :=
  expiry.any fun expiry => decide (expiry ≤ now)

namespace AuthorityScope

variable (scope : AuthorityScope)

/-- `scopeValid` -/
def valid : Bool :=
  !scope.commandTypes.isEmpty && !scope.targetKinds.isEmpty &&
    scope.commandTypes.all (· != .other "") && scope.targetKinds.all AggregateKind.valid &&
    scope.targetIDs.all UUIDv7.valid

/-- `scopeSubset` -/
def within (child parent : AuthorityScope) : Bool :=
  child.commandTypes.all parent.commandTypes.contains &&
    child.targetKinds.all parent.targetKinds.contains &&
    (parent.targetIDs.isEmpty ||
      (!child.targetIDs.isEmpty && child.targetIDs.all parent.targetIDs.contains)) &&
    !(child.canReadTarget && !parent.canReadTarget) &&
    !(parent.requiresOwner && !child.requiresOwner) &&
    !(child.canReopenAccepted && !parent.canReopenAccepted)

/-- `scopeAllows` -/
def allows (command : KernelCommand) (state : Option AggregateState) :
    Bool :=
  scope.commandTypes.contains command.commandType &&
    scope.targetKinds.contains command.target.kind &&
    (scope.targetIDs.isEmpty || containsUUID scope.targetIDs command.target.id) &&
    !(command.commandType == .workReopen &&
      state.any (fun state => state.phase == .accepted) && !scope.canReopenAccepted) &&
    (!scope.requiresOwner ||
      state.any (fun state =>
        state.ownership.ownerFQN.isSome && state.ownership.ownerFQN == command.actorFQN))

/-- `readScopeAllows` -/
def allowsRead (command : KernelCommand) : Bool :=
  scope.canReadTarget && scope.targetKinds.contains command.target.kind &&
    (scope.targetIDs.isEmpty || containsUUID scope.targetIDs command.target.id)

end AuthorityScope

def AuthorityGrant.valid (grant : AuthorityGrant) (now : Time) : Bool :=
  grant.grantDigest.valid && grant.grantee.valid && !grant.revoked &&
    !expired grant.expiresAt now && grant.scope.valid

structure DelegationLink where
  holder : PrincipalRef
  digest : Digest
  scope : AuthorityScope
  expiresAt : Option Time
  canDelegate : Bool

def AuthorityGrant.link (grant : AuthorityGrant) : DelegationLink :=
  ⟨grant.grantee, grant.grantDigest, grant.scope, grant.expiresAt, grant.allowDelegation⟩

namespace AuthorityDelegation

variable (delegation : AuthorityDelegation)

def link : DelegationLink :=
  ⟨delegation.recipient, delegation.delegationDigest, delegation.scope, delegation.expiresAt,
    delegation.allowFurther⟩

/-- `delegationValid` -/
def valid (parent : DelegationLink) (now : Time) : Bool :=
  delegation.delegationDigest.valid && delegation.parentDigest.valid &&
    delegation.source.valid && delegation.recipient.valid && !delegation.revoked &&
    !expired delegation.expiresAt now && delegation.scope.valid &&
    delegation.scope.within parent.scope &&
    parent.expiresAt.all (fun parentExpiry =>
      delegation.expiresAt.any (fun expiry => decide (expiry ≤ parentExpiry)))

/-- Whether the chain ending in `parent` may continue with this delegation: principals
already on the path are not visited again. -/
def extends? (parent : DelegationLink) (path : List PrincipalRef) (now : Time) : Bool :=
  delegation.source == parent.holder && delegation.parentDigest == parent.digest &&
    delegation.valid parent now && !path.contains delegation.recipient

end AuthorityDelegation

namespace AuthorizationPolicy

/-- `authorizeDelegated`; `depth` counts the delegations that may still follow. -/
def authorizeDelegated (policy : AuthorizationPolicy) (command : KernelCommand)
    (state : Option AggregateState) (now : Time) (grants : List Digest) :
    Nat → DelegationLink → List Digest → List PrincipalRef → Option AuthorizationResult
  | 0, _, _, _ => none
  | depth + 1, parent, chain, path =>
    if !parent.canDelegate then none
    else
      (policy.delegationSort.sort policy.delegations).findSome? fun delegation =>
        if !delegation.extends? parent path now then none
        else if delegation.recipient == command.authority &&
            delegation.scope.allows command state then
          some {
            allowed := true
            canReadTarget := delegation.scope.canReadTarget
            reasonCode := "AUTHORIZED"
            grantDigests := grants
            delegationDigests := chain ++ [delegation.delegationDigest] }
        else
          policy.authorizeDelegated command state now grants depth delegation.link
            (chain ++ [delegation.delegationDigest]) (delegation.recipient :: path)

def delegatedCanRead (policy : AuthorizationPolicy) (command : KernelCommand) (now : Time) :
    Nat → DelegationLink → List PrincipalRef → Bool
  | 0, _, _ => false
  | depth + 1, parent, path =>
    parent.canDelegate &&
      policy.delegations.any fun delegation =>
        delegation.extends? parent path now &&
          ((delegation.recipient == command.authority &&
              delegation.scope.allowsRead command) ||
            policy.delegatedCanRead command now depth delegation.link
              (delegation.recipient :: path))

variable (policy : AuthorizationPolicy) (command : KernelCommand) (state : Option AggregateState)
  (now : Time) (grant : AuthorityGrant)

def authorizeGrant : Option AuthorizationResult :=
  if !grant.valid now then none
  else if grant.grantee == command.authority && grant.scope.allows command state then
    some {
      allowed := true
      canReadTarget := grant.scope.canReadTarget
      reasonCode := "AUTHORIZED"
      grantDigests := [grant.grantDigest] }
  else
    policy.authorizeDelegated command state now [grant.grantDigest] maxDelegationDepth
      grant.link [] [grant.grantee]

def grantCanRead : Bool :=
  grant.valid now &&
    ((grant.grantee == command.authority && grant.scope.allowsRead command) ||
      policy.delegatedCanRead command now maxDelegationDepth grant.link [grant.grantee])

def authorize : AuthorizationResult :=
  if !policy.policyDigest.valid || policy.revision == 0 || now.isZero then
    { reasonCode := "INVALID_POLICY" }
  else
    match (policy.grantSort.sort policy.grants).findSome?
        (policy.authorizeGrant command state now) with
    | some result => result
    | none =>
      { canReadTarget := policy.grants.any (policy.grantCanRead command now)
        reasonCode := "NO_APPLICABLE_GRANT" }

end AuthorizationPolicy

end Tekroo.Kernel
