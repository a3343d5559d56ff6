import ServiceMessages.Interaction.TaskEither
import ServiceMessages.RemoteContent.Backend

/-!
# Who may use the remote-content endpoints

The headers every endpoint requires, and the check of the subscription and the
groups that all handlers start with.
-/

namespace ServiceMessages.RemoteContent

open Interaction TaskEither

abbrev Task := TaskEither.{0, 0} Services

inductive Body where
  | configuration (body : RCConfigurationResponse)
  | publicConfiguration (body : RCConfigurationPublic)
  | configurationList (body : RCConfigurationListResponse)
deriving DecidableEq

structure Caller where
  subscriptionId : NonEmptyString
  userGroups : NonEmptyString
  userId : String
deriving DecidableEq

def responseErrorForbiddenNotAuthorized : Response Body :=
  .errorForbiddenNotAuthorized none

abbrev Headers := String → Option String

def requiredHeader (name : String) (refusal : Response Body) (headers : Headers) :
    Except (Response Body) NonEmptyString :=
  match headers name with
  | none => .error refusal
  | some text => if nonempty : text ≠ "" then .ok ⟨text, nonempty⟩ else .error refusal

/-- The last segment of the path.  The source brands it as not empty without a check. -/
def parseOwnerIdFullPath (fullPath : NonEmptyString) : String :=
  (split fullPath.val '/').getLastD ""

def requiredUserIdMiddleware (headers : Headers) : Except (Response Body) String :=
  (requiredHeader "x-user-id" .errorForbiddenAnonymousUser headers).map parseOwnerIdFullPath

def requiredSubscriptionIdMiddleware : Headers → Except (Response Body) NonEmptyString :=
  requiredHeader "x-subscription-id" .errorForbiddenAnonymousUser

def requiredUserGroupsMiddleware : Headers → Except (Response Body) NonEmptyString :=
  requiredHeader "x-user-groups" responseErrorForbiddenNotAuthorized

/-- The three middlewares, in the order every endpoint runs them in. -/
def requiredHeaders (headers : Headers) : Except (Response Body) Caller := do
  let subscriptionId ← requiredSubscriptionIdMiddleware headers
  let userGroups ← requiredUserGroupsMiddleware headers
  let userId ← requiredUserIdMiddleware headers
  return { subscriptionId, userGroups, userId }

def manageSubscriptionPrefix : String := "MANAGE-"

def manageSubscriptionCheck (subscriptionId : NonEmptyString) : Bool :=
  startsWith subscriptionId.val manageSubscriptionPrefix

def allowedRcConfigApiGroup : String := "ApiRemoteContentConfigurationWrite"

def checkGroupAndManageSubscription (subscriptionId userGroups : NonEmptyString) :
    Task (Response Body) Bool :=
  fromPredicate
    (fun isManageSubscription =>
      isManageSubscription && decide (indexOf userGroups.val allowedRcConfigApiGroup > -1))
    responseErrorForbiddenNotAuthorized
    (manageSubscriptionCheck subscriptionId)

namespace Caller

/-- The caller passes the check of the subscription and the groups. -/
def Authorized (caller : Caller) : Prop :=
  manageSubscriptionCheck caller.subscriptionId = true ∧
    indexOf caller.userGroups.val allowedRcConfigApiGroup > -1

instance (caller : Caller) : Decidable caller.Authorized :=
  inferInstanceAs (Decidable (_ ∧ _))

end Caller

theorem checkGroupAndManageSubscription_of_authorized {caller : Caller}
    (authorized : caller.Authorized) :
    checkGroupAndManageSubscription caller.subscriptionId caller.userGroups = of true := by
  simp [checkGroupAndManageSubscription, fromPredicate, authorized.1, authorized.2]

theorem checkGroupAndManageSubscription_of_not_authorized {caller : Caller}
    (refused : ¬ caller.Authorized) :
    checkGroupAndManageSubscription caller.subscriptionId caller.userGroups =
      left responseErrorForbiddenNotAuthorized := by
  unfold Caller.Authorized at refused
  simp only [checkGroupAndManageSubscription, fromPredicate, Bool.and_eq_true, decide_eq_true_eq,
    refused, if_false]

end ServiceMessages.RemoteContent
