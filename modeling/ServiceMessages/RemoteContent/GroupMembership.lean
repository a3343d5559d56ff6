import ServiceMessages.RemoteContent.Lifecycle

/-!
# Membership in the group

The check looks for the name of the group anywhere in the header.  It amounts
to membership as long as no group of the caller merely contains that name.
-/

namespace ServiceMessages.RemoteContent

open Interaction TaskEither

/-- The subscription manages others: its id begins with the prefix of those that do. -/
def Manages (subscriptionId : NonEmptyString) : Prop :=
  ∃ rest, subscriptionId.val = "MANAGE-" ++ rest

def groupsOf (userGroups : NonEmptyString) : List String :=
  split userGroups.val ','

/-- One of the groups is exactly the one that is allowed. -/
def IsMember (userGroups : NonEmptyString) : Prop :=
  allowedRcConfigApiGroup ∈ groupsOf userGroups

/-- The name of the allowed group occurs within the name of one of the groups. -/
def IsMentioned (userGroups : NonEmptyString) : Prop :=
  ∃ group ∈ groupsOf userGroups, allowedRcConfigApiGroup.toList <:+: group.toList

theorem IsMember.isMentioned {userGroups : NonEmptyString} (member : IsMember userGroups) :
    IsMentioned userGroups :=
  ⟨allowedRcConfigApiGroup, member, List.infix_rfl⟩

theorem manageSubscriptionCheck_iff (subscriptionId : NonEmptyString) :
    manageSubscriptionCheck subscriptionId = true ↔ Manages subscriptionId :=
  startsWith_iff _ _

theorem indexOf_allowedRcConfigApiGroup_iff (userGroups : NonEmptyString) :
    indexOf userGroups.val allowedRcConfigApiGroup > -1 ↔ IsMentioned userGroups :=
  indexOf_gt_iff_split _ _ ',' (by decide) (by decide)

theorem checkGroupAndManageSubscription_eq_of_iff (subscriptionId userGroups : NonEmptyString) :
    checkGroupAndManageSubscription subscriptionId userGroups = of true ↔
      Manages subscriptionId ∧ IsMentioned userGroups := by
  rw [← indexOf_allowedRcConfigApiGroup_iff, ← manageSubscriptionCheck_iff]
  have check := @checkGroupAndManageSubscription_of_authorized ⟨subscriptionId, userGroups, ""⟩
  have refusal :=
    @checkGroupAndManageSubscription_of_not_authorized ⟨subscriptionId, userGroups, ""⟩
  constructor
  · intro passes
    by_contra refused
    cases passes.symm.trans (refusal refused)
  · exact check

namespace Request

/-- The request has to pass the check: all do, except a `get` of the internal user. -/
def Gated (config : IConfig) : Request → Prop
  | .get _ caller => config.internalUserId.val ≠ caller.userId
  | _ => True

end Request

theorem not_passes_of_gated {config : IConfig} {request : Request}
    (gated : request.Gated config) (refused : ¬ request.caller.Authorized) :
    ¬ request.Passes config := by
  cases request with
  | get configurationId caller => exact fun mayGet => mayGet.elim gated refused
  | update | create | list => exact refused

/-- The check is exact membership in the group, and a gated request of anybody
else is refused before any command, if and only if either the subscription is
refused anyway or a mention of the group is a membership. -/
theorem exact_membership_iff (commons : Commons) (config : IConfig)
    (subscriptionId userGroups : NonEmptyString) :
    ((checkGroupAndManageSubscription subscriptionId userGroups = of true ↔
        Manages subscriptionId ∧ IsMember userGroups) ∧
      ∀ request : Request, request.caller.subscriptionId = subscriptionId →
        request.caller.userGroups = userGroups → request.Gated config → ¬ IsMember userGroups →
          handler commons config request = .done responseErrorForbiddenNotAuthorized) ↔
    (Manages subscriptionId → IsMentioned userGroups → IsMember userGroups) := by
  rw [checkGroupAndManageSubscription_eq_of_iff]
  constructor
  · rintro ⟨exact, _⟩ manages mentioned
    exact (exact.mp ⟨manages, mentioned⟩).2
  · intro enough
    refine ⟨⟨?_, ?_⟩, ?_⟩
    · rintro ⟨manages, mentioned⟩
      exact ⟨manages, enough manages mentioned⟩
    · rintro ⟨manages, member⟩
      exact ⟨manages, member.isMentioned⟩
    · rintro request rfl rfl gated notMember
      apply handler_of_not_passes
      apply not_passes_of_gated gated
      rintro ⟨manages, found⟩
      have mentioned := (indexOf_allowedRcConfigApiGroup_iff _).mp found
      exact notMember (enough ((manageSubscriptionCheck_iff _).mp manages) mentioned)

/-- A group whose name continues the name of the allowed one passes the check. -/
theorem check_passes_longer_group :
    checkGroupAndManageSubscription ⟨"MANAGE-aSubscriptionId", by decide⟩
        ⟨"ApiRemoteContentConfigurationWriteTest", by decide⟩ = of true ∧
      ¬ IsMember ⟨"ApiRemoteContentConfigurationWriteTest", by decide⟩ := by
  refine
    ⟨@checkGroupAndManageSubscription_of_authorized ⟨⟨_, by decide⟩, ⟨_, by decide⟩, ""⟩ ?_, ?_⟩
  · decide
  · unfold IsMember
    decide

end ServiceMessages.RemoteContent
