import ServiceMessages.RemoteContent.CreateRCConfiguration
import ServiceMessages.RemoteContent.Serialization

/-!
# The identity of a caller

The middleware takes the last segment of a path for the identity of the caller
and brands it as not empty without a check.  It is empty exactly for a path
that ends with a slash, and such an identity is stored like any other.
-/

namespace ServiceMessages.RemoteContent

open Interaction TaskEither Text

theorem parseOwnerIdFullPath_eq_iff {fullPath : NonEmptyString} {userId : String} :
    parseOwnerIdFullPath fullPath = userId ↔
      IsLastSegment '/' fullPath.val.toList userId.toList := by
  obtain ⟨segment, last⟩ := exists_isLastSegment '/' fullPath.val.toList
  have parsed : parseOwnerIdFullPath fullPath = String.ofList segment := by
    rw [parseOwnerIdFullPath, split, List.getLastD_eq_getLast?, List.getLast?_map,
      last.getLast?_splitOn]
    rfl
  rw [parsed, isLastSegment_iff, last.getLast?_splitOn, Option.some_inj]
  constructor
  · rintro rfl
    exact String.toList_ofList.symm
  · rintro rfl
    exact String.ofList_toList

/-- The middleware refuses a header that is absent or empty, and yields the
last segment of any other. -/
theorem requiredUserIdMiddleware_eq_ok_iff {headers : Headers} {userId : String} :
    requiredUserIdMiddleware headers = .ok userId ↔
      ∃ path, headers "x-user-id" = some path ∧ path ≠ "" ∧
        IsLastSegment '/' path.toList userId.toList := by
  cases header : headers "x-user-id" with
  | none => simp [requiredUserIdMiddleware, requiredHeader, header, Except.map]
  | some path =>
      by_cases empty : path = ""
      · simp [requiredUserIdMiddleware, requiredHeader, header, empty, Except.map]
      · have parsed : requiredUserIdMiddleware headers =
            .ok (parseOwnerIdFullPath ⟨path, empty⟩) := by
          simp [requiredUserIdMiddleware, requiredHeader, header, empty, Except.map]
        rw [parsed, Except.ok.injEq, parseOwnerIdFullPath_eq_iff]
        simp [empty]

theorem userId_of_requiredHeaders {headers : Headers} {caller : Caller}
    (accepted : requiredHeaders headers = .ok caller) :
    requiredUserIdMiddleware headers = .ok caller.userId := by
  unfold requiredHeaders at accepted
  cases subscription : requiredSubscriptionIdMiddleware headers with
  | error refusal => simp [subscription, bind, Except.bind] at accepted
  | ok subscriptionId =>
      cases groups : requiredUserGroupsMiddleware headers with
      | error refusal => simp [subscription, groups, bind, Except.bind] at accepted
      | ok userGroups =>
          cases user : requiredUserIdMiddleware headers with
          | error refusal => simp [subscription, groups, user, bind, Except.bind] at accepted
          | ok userId =>
              simp only [subscription, groups, user, bind, Except.bind, pure, Except.pure,
                Except.ok.injEq] at accepted
              rw [← accepted]

theorem ensures_create_owned (commons : Commons) {semantics : Semantics Services World}
    (world : World) (newRCConfiguration : NewRCConfigurationPublic) (caller : Caller) :
    Ensures semantics world (createRCConfigurationHandler commons newRCConfiguration caller)
      fun events _ _ => ∀ configuration reply,
        (⟨.create configuration, reply⟩ : Event Services) ∈ events →
          configuration.userId = caller.userId := by
  by_cases authorized : caller.Authorized
  · rw [createRCConfigurationHandler_of_authorized commons authorized, ensures_call]
    intro ulid world' _
    rw [ensures_call]
    intro reply final _
    have owned : ∀ configuration otherReply,
        (⟨.create configuration, otherReply⟩ : Event Services) ∈
          [⟨.generateConfigurationId, ulid⟩, ⟨.create (makeNewRCConfigurationWithConfigurationId
            ulid caller.userId newRCConfiguration), reply⟩] →
          configuration.userId = caller.userId := by
      intro configuration otherReply membership
      simp only [List.mem_cons, Event.mk.injEq, reduceCtorEq, false_and, Command.create.injEq,
        List.not_mem_nil, or_false, false_or] at membership
      rw [membership.1]
      rfl
    cases reply <;> exact ensures_done.mpr owned
  · rw [createRCConfigurationHandler_of_not_authorized commons authorized, ensures_done]
    simp

/-- The identity that the headers give to a caller is the last segment of a
path and not empty, so no creation stores a document that nobody owns, and
headers with different last segments are told apart. -/
structure IdentityNeverEmpty (headers : Headers) : Prop where
  identified : ∀ userId, requiredUserIdMiddleware headers = .ok userId →
    userId ≠ "" ∧ '/' ∉ userId.toList ∧
      ∃ path, headers "x-user-id" = some path ∧ IsLastSegment '/' path.toList userId.toList
  owned : ∀ (commons : Commons) (newRCConfiguration : NewRCConfigurationPublic)
    (caller : Caller) (semantics : Semantics Services World) (world : World),
    requiredHeaders headers = .ok caller →
      Ensures semantics world (createRCConfigurationHandler commons newRCConfiguration caller)
        fun events _ _ => ∀ configuration reply,
          (⟨.create configuration, reply⟩ : Event Services) ∈ events →
            configuration.userId ≠ ""
  distinguished : ∀ other userId, requiredUserIdMiddleware headers = .ok userId →
    requiredUserIdMiddleware other = .ok userId →
      ∃ path otherPath segment, headers "x-user-id" = some path ∧
        other "x-user-id" = some otherPath ∧ segment ≠ [] ∧
          IsLastSegment '/' path.toList segment ∧ IsLastSegment '/' otherPath.toList segment

theorem userId_ne_empty {headers : Headers} {userId : String}
    (complete : ∀ front, headers "x-user-id" ≠ some (front ++ "/"))
    (accepted : requiredUserIdMiddleware headers = .ok userId) : userId ≠ "" := by
  rintro rfl
  obtain ⟨path, header, nonempty, -, whole | ⟨front, segments⟩⟩ :=
    requiredUserIdMiddleware_eq_ok_iff.mp accepted
  · exact nonempty (String.toList_inj.mp whole)
  · apply complete (String.ofList front)
    rw [header, Option.some_inj, ← String.toList_inj, segments]
    simp

/-- The headers keep the promise of the middleware if and only if the path
does not end with a slash. -/
theorem identity_never_empty_iff (headers : Headers) :
    IdentityNeverEmpty headers ↔ ∀ front, headers "x-user-id" ≠ some (front ++ "/") := by
  constructor
  · intro sound front ends
    have accepted : requiredUserIdMiddleware headers = .ok "" := by
      apply requiredUserIdMiddleware_eq_ok_iff.mpr
      have nonempty : front ++ "/" ≠ "" := by simp [String.append_eq_empty_iff]
      exact ⟨_, ends, nonempty, List.not_mem_nil, .inr ⟨front.toList, by simp⟩⟩
    exact (sound.identified "" accepted).1 rfl
  · intro complete
    refine ⟨?_, ?_, ?_⟩
    · intro userId accepted
      obtain ⟨path, header, -, last⟩ := requiredUserIdMiddleware_eq_ok_iff.mp accepted
      exact ⟨userId_ne_empty complete accepted, last.1, path, header, last⟩
    · intro commons newRCConfiguration caller semantics world accepted
      have nonempty := userId_ne_empty complete (userId_of_requiredHeaders accepted)
      intro events response final runs configuration reply membership
      rw [ensures_create_owned commons world newRCConfiguration caller events response final runs
        configuration reply membership]
      exact nonempty
    · intro other userId accepted otherAccepted
      obtain ⟨path, header, -, last⟩ := requiredUserIdMiddleware_eq_ok_iff.mp accepted
      obtain ⟨otherPath, otherHeader, -, otherLast⟩ :=
        requiredUserIdMiddleware_eq_ok_iff.mp otherAccepted
      refine ⟨path, otherPath, userId.toList, header, otherHeader, ?_, last, otherLast⟩
      rw [Ne, String.toList_eq_nil_iff]
      exact userId_ne_empty complete accepted

def someIncompleteHeaders : Headers
  | "x-user-id" => some "/subscriptions/aSubscriptionId/users/"
  | "x-subscription-id" => some "MANAGE-aSubscriptionId"
  | "x-user-groups" => some "ApiRemoteContentConfigurationWrite"
  | _ => none

/-- A caller whose path ends with a slash passes all middlewares without an identity. -/
theorem accepts_empty_identity :
    (∃ caller, requiredHeaders someIncompleteHeaders = .ok caller ∧ caller.userId = "" ∧
      caller.Authorized) ∧
    ¬ IdentityNeverEmpty someIncompleteHeaders := by
  have accepted : requiredUserIdMiddleware someIncompleteHeaders = .ok "" := by decide
  refine ⟨⟨⟨⟨_, by decide⟩, ⟨_, by decide⟩, ""⟩, rfl, rfl, by decide⟩, ?_⟩
  exact fun sound => (sound.identified "" accepted).1 rfl

end ServiceMessages.RemoteContent
