import Tekroo.Store.Script

namespace Tekroo.Kernel

open AuthorizationPolicy

variable {state : Option AggregateState} {now : Time}

/-! # Chains of delegations

What `Authorize` visits are the ends of the chains of live delegations that name no principal
twice.
-/

namespace AuthorityScope

variable {child parent : AuthorityScope} {command : KernelCommand}

theorem covers_of_within {ids : List UUIDv7} {id : UUIDv7}
    (named : (parent.targetIDs.isEmpty ||
      (!ids.isEmpty && ids.all parent.targetIDs.contains)) = true)
    (covered : (ids.isEmpty || containsUUID ids id) = true) :
    (parent.targetIDs.isEmpty || containsUUID parent.targetIDs id) = true := by
  simp only [containsUUID, tests_iff, List.contains_iff_mem] at named covered ⊢
  rcases named with all | ⟨some_, each⟩
  · exact .inl all
  · rcases covered with none | listed
    · simp [none] at some_
    · exact .inr (each id listed)

theorem allows_of_within (within : child.within parent = true)
    (allows : child.allows command state = true) : parent.allows command state = true := by
  simp only [AuthorityScope.within, Bool.and_eq_true, List.all_eq_true] at within
  simp only [AuthorityScope.allows, Bool.and_eq_true] at allows ⊢
  obtain ⟨⟨⟨⟨⟨types, kinds⟩, ids⟩, _⟩, owner⟩, accepted⟩ := within
  obtain ⟨⟨⟨⟨type, kind⟩, id⟩, reopens⟩, owned⟩ := allows
  refine ⟨⟨⟨⟨types _ (List.contains_iff_mem.mp type), kinds _ (List.contains_iff_mem.mp kind)⟩,
    covers_of_within ids id⟩, ?_⟩, ?_⟩
  · revert reopens accepted
    cases child.canReopenAccepted <;> cases parent.canReopenAccepted <;> simp
  · revert owned owner
    cases child.requiresOwner <;> cases parent.requiresOwner <;> simp

theorem allowsRead_of_allows (allows : parent.allows command state = true) :
    parent.allowsRead command = parent.canReadTarget := by
  simp only [AuthorityScope.allows, Bool.and_eq_true] at allows
  simp only [AuthorityScope.allowsRead, allows, Bool.and_true]

end AuthorityScope

/-- Each delegation is live, extends the link before it and narrows its scope. -/
def AuthorizationPolicy.Chain (policy : AuthorizationPolicy) (now : Time) :
    DelegationLink → List AuthorityDelegation → Prop
  | _, [] => True
  | link, delegation :: rest =>
    link.canDelegate = true ∧ delegation ∈ policy.delegations ∧
      delegation.source = link.holder ∧ delegation.parentDigest = link.digest ∧
      delegation.valid link now = true ∧ policy.Chain now delegation.link rest

def DelegationLink.endOf : DelegationLink → List AuthorityDelegation → DelegationLink
  | link, [] => link
  | _, delegation :: rest => delegation.link.endOf rest

/-- The command's principal holds `last` through a live grant and at most four live delegations
that name no principal twice. -/
structure AuthorizationPolicy.Holds (policy : AuthorizationPolicy) (command : KernelCommand)
    (now : Time) (grant : AuthorityGrant) (chain : List AuthorityDelegation) : Prop where
  granted : grant ∈ policy.grants
  live : grant.valid now = true
  linked : policy.Chain now grant.link chain
  bounded : chain.length ≤ maxDelegationDepth
  distinct : (grant.grantee :: chain.map (·.recipient)).Nodup
  holder : (grant.link.endOf chain).holder = command.authority

def AuthorizationPolicy.inForce (policy : AuthorizationPolicy) (now : Time) : Bool :=
  policy.policyDigest.valid && policy.revision != 0 && !now.isZero

namespace AuthorizationPolicy

def delegatedLinks (policy : AuthorizationPolicy) (now : Time) :
    Nat → DelegationLink → List PrincipalRef → List DelegationLink
  | 0, _, _ => []
  | depth + 1, parent, path =>
    if parent.canDelegate then
      (policy.delegationSort.sort policy.delegations).flatMap fun delegation =>
        if delegation.extends? parent path now then
          delegation.link ::
            policy.delegatedLinks now depth delegation.link (delegation.recipient :: path)
        else []
    else []

def links (policy : AuthorizationPolicy) (now : Time) : List DelegationLink :=
  (policy.grantSort.sort policy.grants).flatMap fun grant =>
    if grant.valid now then
      grant.link :: policy.delegatedLinks now maxDelegationDepth grant.link [grant.grantee]
    else []

end AuthorizationPolicy

def DelegationLink.authorizes (link : DelegationLink) (command : KernelCommand)
    (state : Option AggregateState) : Bool :=
  link.holder == command.authority && link.scope.allows command state

def DelegationLink.reads (link : DelegationLink) (command : KernelCommand) : Bool :=
  link.holder == command.authority && link.scope.allowsRead command

namespace AuthorizationPolicy

variable {policy larger : AuthorizationPolicy} {command : KernelCommand} {depth : Nat}
  {parent link : DelegationLink} {path : List PrincipalRef} {chain : List AuthorityDelegation}
  {grant : AuthorityGrant}

theorem authorizeDelegated_eq {grants chain : List Digest} :
    (policy.authorizeDelegated command state now grants depth parent chain path).map
        (fun result => (result.allowed, result.canReadTarget)) =
      ((policy.delegatedLinks now depth parent path).find? (·.authorizes command state)).map
        (fun link => (true, link.scope.canReadTarget)) := by
  induction depth generalizing parent chain path with
  | zero => rfl
  | succ depth induction =>
    unfold authorizeDelegated delegatedLinks
    cases parent.canDelegate with
    | false => rfl
    | true =>
      simp only [Bool.not_true, Bool.false_eq_true, if_false, if_true, List.find?_flatMap,
        List.map_findSome?]
      congr 1
      funext delegation
      simp only [Function.comp_apply]
      cases delegation.extends? parent path now with
      | false => rfl
      | true =>
        simp only [Bool.not_true, Bool.false_eq_true, if_false, if_true, List.find?_cons,
          DelegationLink.authorizes, AuthorityDelegation.link]
        split
        · next authorized => simp [authorized]
        · next other =>
          simp only [Bool.not_eq_true] at other
          rw [other]
          exact induction

/-- The links below `parent`: first the delegations that extend it, then what is below them. -/
theorem mem_delegatedLinks_succ :
    link ∈ policy.delegatedLinks now (depth + 1) parent path ↔
      parent.canDelegate = true ∧ ∃ delegation ∈ policy.delegations,
        delegation.extends? parent path now = true ∧
          (link = delegation.link ∨
            link ∈ policy.delegatedLinks now depth delegation.link
              (delegation.recipient :: path)) := by
  rw [delegatedLinks]
  split
  · next delegates =>
    simp only [delegates, true_and, List.mem_flatMap, Lib.SliceSort.mem_sort]
    refine exists_congr fun delegation => and_congr_right fun _ => ?_
    split <;> simp_all
  · next forbidden => simp [forbidden]

theorem delegatedCanRead_iff :
    policy.delegatedCanRead command now depth parent path = true ↔
      ∃ link ∈ policy.delegatedLinks now depth parent path, link.reads command = true := by
  induction depth generalizing parent path with
  | zero => simp [delegatedCanRead, delegatedLinks]
  | succ depth induction =>
    simp only [delegatedCanRead, tests_iff, List.any_eq_true, induction, mem_delegatedLinks_succ]
    constructor
    · rintro ⟨delegates, delegation, member, extending, direct | ⟨link, below, reads⟩⟩
      · exact ⟨delegation.link, ⟨delegates, delegation, member, extending, .inl rfl⟩,
          by simpa [DelegationLink.reads, AuthorityDelegation.link] using direct⟩
      · exact ⟨link, ⟨delegates, delegation, member, extending, .inr below⟩, reads⟩
    · rintro ⟨link, ⟨delegates, delegation, member, extending, rfl | below⟩, reads⟩
      · exact ⟨delegates, delegation, member, extending,
          .inl (by simpa [DelegationLink.reads, AuthorityDelegation.link] using reads)⟩
      · exact ⟨delegates, delegation, member, extending, .inr ⟨link, below, reads⟩⟩

theorem mem_delegatedLinks :
    link = parent ∨ link ∈ policy.delegatedLinks now depth parent path ↔
      ∃ chain, policy.Chain now parent chain ∧ chain.length ≤ depth ∧
        (chain.map (·.recipient)).Nodup ∧ (chain.map (·.recipient)).Disjoint path ∧
        parent.endOf chain = link := by
  induction depth generalizing parent path with
  | zero =>
    simp only [delegatedLinks, List.not_mem_nil, or_false]
    constructor
    · rintro rfl
      exact ⟨[], trivial, by simp, by simp, by simp, rfl⟩
    · rintro ⟨chain, _, short, _, _, rfl⟩
      rw [List.eq_nil_of_length_eq_zero (Nat.le_zero.mp short)]
      rfl
  | succ depth induction =>
    simp only [mem_delegatedLinks_succ, induction, AuthorityDelegation.extends?, tests_iff,
      List.contains_eq_mem, decide_eq_false_iff_not]
    constructor
    · rintro (rfl | ⟨delegates, delegation, member, ⟨⟨⟨source, digest⟩, valid⟩, new⟩, chain,
        linked, short, distinct, apart, rfl⟩)
      · exact ⟨[], trivial, by simp, by simp, by simp, rfl⟩
      · obtain ⟨fresh, apart⟩ := List.disjoint_cons_right.mp apart
        exact ⟨delegation :: chain, ⟨delegates, member, source, digest, valid, linked⟩,
          by simpa using short, List.nodup_cons.mpr ⟨fresh, distinct⟩,
          List.disjoint_cons_left.mpr ⟨new, apart⟩, rfl⟩
    · rintro ⟨_ | ⟨delegation, chain⟩, linked, short, distinct, apart, rfl⟩
      · exact .inl rfl
      · obtain ⟨delegates, member, source, digest, valid, linked⟩ := linked
        obtain ⟨fresh, distinct⟩ := List.nodup_cons.mp distinct
        obtain ⟨new, apart⟩ := List.disjoint_cons_left.mp apart
        exact .inr ⟨delegates, delegation, member, ⟨⟨⟨source, digest⟩, valid⟩, new⟩, chain, linked,
          by simpa using short, distinct, List.disjoint_cons_right.mpr ⟨fresh, apart⟩, rfl⟩

theorem mem_links_iff :
    link ∈ policy.links now ↔ ∃ grant ∈ policy.grants, grant.valid now = true ∧
      (link = grant.link ∨
        link ∈ policy.delegatedLinks now maxDelegationDepth grant.link [grant.grantee]) := by
  simp only [links, List.mem_flatMap, Lib.SliceSort.mem_sort]
  refine exists_congr fun grant => and_congr_right fun _ => ?_
  split <;> simp_all

theorem mem_links :
    link ∈ policy.links now ∧ link.holder = command.authority ↔
      ∃ grant chain, policy.Holds command now grant chain ∧ grant.link.endOf chain = link := by
  simp only [mem_links_iff, mem_delegatedLinks, List.disjoint_singleton]
  constructor
  · rintro ⟨⟨grant, granted, live, chain, linked, short, distinct, apart, rfl⟩, holder⟩
    exact ⟨grant, chain, ⟨granted, live, linked, short, List.nodup_cons.mpr ⟨apart, distinct⟩,
      holder⟩, rfl⟩
  · rintro ⟨grant, chain, holds, rfl⟩
    obtain ⟨apart, distinct⟩ := List.nodup_cons.mp holds.distinct
    exact ⟨⟨grant, holds.granted, holds.live, chain, holds.linked, holds.bounded, distinct, apart,
      rfl⟩, holds.holder⟩

theorem authorizeGrant_eq :
    (policy.authorizeGrant command state now grant).map
        (fun result => (result.allowed, result.canReadTarget)) =
      ((if grant.valid now then
        grant.link :: policy.delegatedLinks now maxDelegationDepth grant.link [grant.grantee]
      else []).find? (·.authorizes command state)).map
        (fun link => (true, link.scope.canReadTarget)) := by
  unfold authorizeGrant
  cases grant.valid now with
  | false => rfl
  | true =>
    simp only [Bool.not_true, Bool.false_eq_true, if_false, if_true, List.find?_cons,
      DelegationLink.authorizes, AuthorityGrant.link]
    split
    · next authorized => simp [authorized]
    · next other =>
      simp only [Bool.not_eq_true] at other
      rw [other]
      exact authorizeDelegated_eq

theorem grantCanRead_eq :
    policy.grants.any (policy.grantCanRead command now) = (policy.links now).any
      (·.reads command) := by
  rw [Bool.eq_iff_iff]
  simp only [List.any_eq_true, grantCanRead, tests_iff, delegatedCanRead_iff, mem_links_iff]
  constructor
  · rintro ⟨grant, member, live, direct | ⟨link, below, reads⟩⟩
    · exact ⟨grant.link, ⟨grant, member, live, .inl rfl⟩,
        by simpa [DelegationLink.reads, AuthorityGrant.link] using direct⟩
    · exact ⟨link, ⟨grant, member, live, .inr below⟩, reads⟩
  · rintro ⟨link, ⟨grant, member, live, rfl | below⟩, reads⟩
    · exact ⟨grant, member, live,
        .inl (by simpa [DelegationLink.reads, AuthorityGrant.link] using reads)⟩
    · exact ⟨grant, member, live, .inr ⟨link, below, reads⟩⟩

theorem authorize_eq (ruling : policy.inForce now = true) :
    (policy.authorize command state now).allowed =
        ((policy.links now).find? (·.authorizes command state)).isSome ∧
      (policy.authorize command state now).canReadTarget =
        match (policy.links now).find? (·.authorizes command state) with
        | some link => link.scope.canReadTarget
        | none => (policy.links now).any (·.reads command) := by
  have known : (!policy.policyDigest.valid || policy.revision == 0 || now.isZero) = false := by
    simpa [inForce, and_assoc] using ruling
  have found : ((policy.grantSort.sort policy.grants).findSome?
      (policy.authorizeGrant command state now)).map
        (fun result => (result.allowed, result.canReadTarget)) =
      ((policy.links now).find? (·.authorizes command state)).map
        (fun link => (true, link.scope.canReadTarget)) := by
    rw [links, List.find?_flatMap, List.map_findSome?, List.map_findSome?]
    exact congrArg (List.findSome? · _) (funext fun grant => authorizeGrant_eq)
  rw [authorize, known, ← grantCanRead_eq]
  cases first : (policy.links now).find? (·.authorizes command state) with
  | none =>
    rw [first, Option.map_none, Option.map_eq_none_iff] at found
    simp [found]
  | some link =>
    rw [first, Option.map_some, Option.map_eq_some_iff] at found
    obtain ⟨result, searched, same⟩ := found
    simpa [searched] using same

theorem authorize_closed (ruling : policy.inForce now = false) :
    (policy.authorize command state now).allowed = false ∧
      (policy.authorize command state now).canReadTarget = false := by
  have known : (!policy.policyDigest.valid || policy.revision == 0 || now.isZero) = true := by
    revert ruling
    simp only [inForce]
    cases policy.policyDigest.valid <;> cases now.isZero <;> simp
  simp [authorize, known]

theorem allowed_iff :
    (policy.authorize command state now).allowed = true ↔ policy.inForce now = true ∧
      ∃ grant chain, policy.Holds command now grant chain ∧
        (grant.link.endOf chain).scope.allows command state = true := by
  cases ruling : policy.inForce now with
  | false => simp [(authorize_closed ruling).1]
  | true =>
    rw [(authorize_eq ruling).1, List.find?_isSome]
    simp only [DelegationLink.authorizes, tests_iff, true_and]
    constructor
    · rintro ⟨link, listed, holder, allows⟩
      obtain ⟨grant, chain, holds, rfl⟩ := mem_links.mp ⟨listed, holder⟩
      exact ⟨grant, chain, holds, allows⟩
    · rintro ⟨grant, chain, holds, allows⟩
      obtain ⟨listed, holder⟩ := mem_links.mpr ⟨grant, chain, holds, rfl⟩
      exact ⟨_, listed, holder, allows⟩

theorem Chain.allows (linked : policy.Chain now link chain)
    (allows : (link.endOf chain).scope.allows command state = true) :
    link.scope.allows command state = true := by
  induction chain generalizing link with
  | nil => exact allows
  | cons delegation rest induction =>
    obtain ⟨_, _, _, _, valid, linked⟩ := linked
    simp only [AuthorityDelegation.valid, tests_iff] at valid
    exact AuthorityScope.allows_of_within valid.1.2 (induction linked allows)

theorem Chain.mono (linked : policy.Chain now link chain)
    (delegations : ∀ delegation ∈ policy.delegations, delegation ∈ larger.delegations) :
    larger.Chain now link chain := by
  induction chain generalizing link with
  | nil => trivial
  | cons delegation rest induction =>
    obtain ⟨delegates, member, source, parent, valid, linked⟩ := linked
    exact ⟨delegates, delegations _ member, source, parent, valid, induction linked⟩

theorem Holds.mono (holds : policy.Holds command now grant chain)
    (grants : ∀ grant ∈ policy.grants, grant ∈ larger.grants)
    (delegations : ∀ delegation ∈ policy.delegations, delegation ∈ larger.delegations) :
    larger.Holds command now grant chain :=
  { holds with granted := grants _ holds.granted, linked := holds.linked.mono delegations }

end AuthorizationPolicy

/-- A command is allowed exactly when the policy is in force and the command's principal holds,
through a live grant and at most four live delegations that name no principal twice, a scope that
covers it.  The scope of the grant then covers the command as well, and the order of grants and
delegations makes no difference. -/
theorem allowed_iff_delegated (policy : AuthorizationPolicy) (command : KernelCommand)
    (state : Option AggregateState) (now : Time) :
    ((policy.authorize command state now).allowed = true ↔ policy.inForce now = true ∧
      ∃ grant chain, policy.Holds command now grant chain ∧
        (grant.link.endOf chain).scope.allows command state = true) ∧
    (∀ grant chain, policy.Holds command now grant chain →
      (grant.link.endOf chain).scope.allows command state = true →
        grant.scope.allows command state = true) ∧
    ∀ grants delegations, policy.grants.Perm grants → policy.delegations.Perm delegations →
      ({ policy with grants, delegations }.authorize command state now).allowed =
        (policy.authorize command state now).allowed := by
  refine ⟨allowed_iff, fun grant chain holds allows =>
    holds.linked.allows allows, fun grants delegations sameGrants sameDelegations => ?_⟩
  rw [Bool.eq_iff_iff, allowed_iff, allowed_iff]
  refine and_congr Iff.rfl ⟨?_, ?_⟩
  · rintro ⟨grant, chain, holds, allows⟩
    exact ⟨grant, chain, holds.mono (fun _ => sameGrants.mem_iff.mpr)
      (fun _ => sameDelegations.mem_iff.mpr), allows⟩
  · rintro ⟨grant, chain, holds, allows⟩
    exact ⟨grant, chain, holds.mono (fun _ => sameGrants.mem_iff.mp)
      (fun _ => sameDelegations.mem_iff.mp), allows⟩

namespace Sample

def delegation (value parent : Nat) (source recipient : PrincipalKind) : AuthorityDelegation :=
  ⟨.number value, .number parent, principal source, principal recipient, scope, none, false, true⟩

/-- The human passes a grant on to a service and has it back from there. -/
def passedBack : AuthorizationPolicy :=
  { policy with
    grants := [{ grant 1 .human with allowDelegation := true }]
    delegations := [delegation 2 1 .human .service, delegation 3 2 .service .human,
      delegation 4 3 .human .actor] }

def createStory : KernelCommand :=
  command 9 .actor .storyCreate ⟨.story, .number 10⟩ create (.unread "")

/-- A chain of three different live delegations, one of them back to the human, is not
followed. -/
theorem passed_back_refused :
    passedBack.inForce 1 = true ∧
      passedBack.Chain 1 (AuthorityGrant.link { grant 1 .human with allowDelegation := true })
        passedBack.delegations ∧
      passedBack.delegations.Nodup ∧
      (delegation 4 3 .human .actor).scope.allows createStory none = true ∧
      (passedBack.authorize createStory none 1).allowed = false := by
  simp only [passedBack, Chain]
  decide

end Sample

namespace AuthorizationPolicy

variable {policy : AuthorizationPolicy} {command : KernelCommand}

/-- Some scope that the principal holds gives read access to the target. -/
def Reads (policy : AuthorizationPolicy) (command : KernelCommand) (now : Time) : Prop :=
  ∃ grant chain, policy.Holds command now grant chain ∧
    (grant.link.endOf chain).scope.allowsRead command = true

/-- The policy is in force, and the first scope that covers the command gives read access; the
scopes stand in the order of digests, and as `sort.Slice` leaves them where digests repeat. -/
def readsFirst (policy : AuthorizationPolicy) (command : KernelCommand)
    (state : Option AggregateState) (now : Time) : Bool :=
  policy.inForce now &&
    ((policy.links now).find? (·.authorizes command state)).all (·.scope.canReadTarget)

theorem reads_iff : policy.Reads command now ↔
    (policy.links now).any (·.reads command) = true := by
  simp only [List.any_eq_true, DelegationLink.reads, tests_iff]
  constructor
  · rintro ⟨grant, chain, holds, reads⟩
    obtain ⟨listed, holder⟩ := mem_links.mpr ⟨grant, chain, holds, rfl⟩
    exact ⟨_, listed, holder, reads⟩
  · rintro ⟨link, listed, holder, reads⟩
    obtain ⟨grant, chain, holds, rfl⟩ := mem_links.mp ⟨listed, holder⟩
    exact ⟨grant, chain, holds, reads⟩

theorem canReadTarget_iff : (policy.authorize command state now).canReadTarget = true ↔
    policy.Reads command now ∧ policy.readsFirst command state now = true := by
  cases ruling : policy.inForce now with
  | false => simp [readsFirst, ruling, (authorize_closed ruling).2]
  | true =>
    rw [(authorize_eq ruling).2, readsFirst, ruling, reads_iff]
    cases first : (policy.links now).find? (·.authorizes command state) with
    | none => simp
    | some link =>
      have authorizes := List.find?_some first
      simp only [DelegationLink.authorizes, tests_iff] at authorizes
      have reads : link.scope.canReadTarget = true →
          (policy.links now).any (·.reads command) = true := fun readable =>
        List.any_eq_true.mpr ⟨link, List.mem_of_find?_eq_some first, by
          simp [DelegationLink.reads, authorizes,
            AuthorityScope.allowsRead_of_allows authorizes.2, readable]⟩
      simpa using reads

end AuthorizationPolicy

/-- Read access that the principal holds is reported exactly when the first scope that covers the
command has it too; under that condition nothing that is added to a policy takes it away. -/
theorem read_reported_iff (policy : AuthorizationPolicy) (command : KernelCommand)
    (state : Option AggregateState) (now : Time) :
    ((policy.Reads command now → (policy.authorize command state now).canReadTarget = true) ↔
      (policy.Reads command now → policy.readsFirst command state now = true)) ∧
    ∀ larger : AuthorizationPolicy, (∀ grant ∈ policy.grants, grant ∈ larger.grants) →
      (∀ delegation ∈ policy.delegations, delegation ∈ larger.delegations) →
      larger.readsFirst command state now = true →
      (policy.authorize command state now).canReadTarget = true →
        (larger.authorize command state now).canReadTarget = true := by
  simp only [canReadTarget_iff]
  refine ⟨by tauto, fun larger grants delegations first ⟨⟨grant, chain, holds, reads⟩, _⟩ => ?_⟩
  exact ⟨⟨grant, chain, holds.mono grants delegations, reads⟩, first⟩

namespace Sample

/-- A grant without read access before one that has it. -/
def blindFirst : AuthorizationPolicy :=
  { policy with
    grants := [{ grant 1 .actor with scope := { scope with canReadTarget := false } },
      grant 2 .actor] }

/-- With the second grant alone the actor may read the target; with the first one added it may
not. -/
theorem added_grant_hides_target :
    ({ blindFirst with grants := [grant 2 .actor] }.authorize createStory none 1).canReadTarget =
        true ∧
      blindFirst.Reads createStory 1 ∧
      (blindFirst.authorize createStory none 1).canReadTarget = false := by
  refine ⟨by decide, reads_iff.mpr (by decide), by decide⟩

end Sample

end Tekroo.Kernel
