import ServiceMessages.Interaction.Stages
import ServiceMessages.Notify.Delivery

/-!
# The stages of a notification

Every service is asked once at most, in a fixed order but for the two parallel
lookups, and the queue comes last.  So the answers a request receives are those
of one function, also while the services change.
-/

namespace ServiceMessages.Notify

open Interaction TaskEither

/-- The dependencies in the order in which they are asked. -/
def dependencyStages : Stages Dependencies where
  rank
    | .retrieveUserProfile _ => some 0
    | .retrieveUserSession _ => some 1
    | .retrieveMessageWithContent .. => some 2
    | .retrieveService _ => some 3
    | .sendNotification .. => some 4
    | _ => none
  subsingleton_of_none command unranked := by
    cases command with
    | error | warning | trackEvent | silentPushPrinter | verbosePushPrinter =>
        exact inferInstanceAs (Subsingleton Unit)
    | _ => cases unranked

/-- The services in that order.  The two lookups of a message may be asked in
either order. -/
def serviceStages (contentFirst : Bool) : Stages Services where
  rank
    | .findLastVersionByModelId _ => some 0
    | .getSession _ => some 1
    | .getContentFromBlob _ => some (if contentFirst then 2 else 3)
    | .findMessageForRecipient .. => some (if contentFirst then 3 else 2)
    | .findOneByServiceId _ => some 4
    | .sendMessage _ => some 5
    | _ => none
  subsingleton_of_none command unranked := by
    cases command with
    | logError | logWarn | trackEvent => exact inferInstanceAs (Subsingleton Unit)
    | _ => cases unranked

theorem within_ask_of_some {command : Dependency} {rank : ℕ}
    (ranked : dependencyStages.rank command = some rank) :
    dependencyStages.Within (rank + 1) rank (ask command) :=
  (Stages.within_call_of_some ranked).mpr ⟨le_rfl, by omega, fun _ => le_rfl⟩

theorem within_ask_of_none {command : Dependency} (unranked : dependencyStages.rank command = none)
    (bound : ℕ) : dependencyStages.Within bound bound (ask command) :=
  (Stages.within_call_of_none unranked).mpr fun _ => le_rfl

theorem within_retrieveSessionData (userProfile : RetrievedProfile) (fiscalCode : FiscalCode) :
    dependencyStages.Within 2 1 (retrieveSessionData userProfile fiscalCode) := by
  have asked : dependencyStages.Within 2 1 (ask (.retrieveUserSession fiscalCode)) :=
    within_ask_of_some rfl
  refine asked.map.fold le_rfl (fun _ => ?_) fun _ => le_rfl
  exact (within_ask_of_none rfl 2).bind le_rfl fun _ => le_rfl

theorem within_retrieveMessageOrLog (fiscalCode : FiscalCode) (messageId : NonEmptyString) :
    dependencyStages.Within 3 2 (retrieveMessageOrLog fiscalCode messageId) := by
  have asked :
      dependencyStages.Within 3 2 (ask (.retrieveMessageWithContent fiscalCode messageId)) :=
    within_ask_of_some rfl
  exact asked.mapLeftM fun _ => (within_ask_of_none rfl 3).bind le_rfl fun _ => le_rfl

theorem within_retrieveServiceOrLog (serviceId : NonEmptyString) :
    dependencyStages.Within 4 3 (retrieveServiceOrLog serviceId) := by
  have asked : dependencyStages.Within 4 3 (ask (.retrieveService serviceId)) :=
    within_ask_of_some rfl
  exact asked.mapLeftM fun _ => (within_ask_of_none rfl 4).bind le_rfl fun _ => le_rfl

theorem within_print (sendVerboseNotification : Bool) (notificationType : NotificationType)
    (entry : NotificationEntry) (bound : ℕ) :
    dependencyStages.Within bound bound
      (print sendVerboseNotification notificationType entry) := by
  cases sendVerboseNotification <;>
    exact (within_ask_of_none rfl bound).bind le_rfl fun _ => le_rfl

variable (toHash : String → String)

theorem within_prepareNotification (userProfile : RetrievedProfile)
    (notificationType : NotificationType) (fiscalCode : FiscalCode) (messageId : NonEmptyString) :
    dependencyStages.Within 4 1
      (prepareNotification toHash userProfile notificationType fiscalCode messageId) := by
  have session := within_retrieveSessionData userProfile fiscalCode
  refine Stages.Within.mapM (Stages.Within.mapM (Stages.Within.map ?_) ?_) ?_
  · refine Stages.Within.chain (?_ : dependencyStages.Within 3 1 _) (by omega) fun _ =>
      (within_retrieveServiceOrLog _).map
    exact session.chain (by omega) fun _ => (within_retrieveMessageOrLog fiscalCode messageId).map
  · exact fun _ => (within_ask_of_none rfl 4).bind le_rfl fun _ => le_rfl
  · exact fun _ => within_print ..

theorem within_notifyHandler (notificationInfo : NotificationInfo) :
    dependencyStages.Within 5 0 (notifyHandler toHash notificationInfo) := by
  have profile : dependencyStages.Within 1 0
      (ask (.retrieveUserProfile notificationInfo.fiscal_code)) := within_ask_of_some rfl
  refine Stages.Within.fold (Stages.Within.map (?_ : dependencyStages.Within 5 0 _)) le_rfl
    (fun _ => le_rfl) fun _ => le_rfl
  refine Stages.Within.chain (?_ : dependencyStages.Within 4 0 _) (by omega) fun printed => ?_
  · refine Stages.Within.chain (?_ : dependencyStages.Within 1 0 _) (by omega) fun userProfile =>
      within_prepareNotification toHash userProfile _ _ _
    refine Stages.Within.chain (Stages.Within.map (?_ : dependencyStages.Within 1 0 _)) le_rfl ?_
    · exact profile.mapLeftM fun _ => (within_ask_of_none rfl 1).bind le_rfl fun _ => le_rfl
    · rintro ⟨userProfile, permission⟩
      refine Stages.Within.mapLeftM ?_ fun _ =>
        (within_ask_of_none rfl 1).bind le_rfl fun _ => le_rfl
      cases permission <;> exact Nat.le_refl 1
  · have sent : dependencyStages.Within 5 4 (ask (.sendNotification notificationInfo.fiscal_code
        notificationInfo.message_id printed.title printed.body)) := within_ask_of_some rfl
    exact sent.mapLeftM fun _ => (within_ask_of_none rfl 5).bind le_rfl fun _ => le_rfl

section Services

variable {contentFirst : Bool}

theorem within_request {command : Service} {rank : ℕ}
    (ranked : (serviceStages contentFirst).rank command = some rank) :
    (serviceStages contentFirst).Within (rank + 1) rank (request command) :=
  (Stages.within_call_of_some ranked).mpr ⟨le_rfl, by omega, fun _ => le_rfl⟩

theorem within_retrieve {E A : Type} {upper lower : ℕ} {lookup : Task E (Option A)}
    (within : (serviceStages contentFirst).Within upper lower lookup)
    (onError : E → NotifyResponse) (notFound : NotifyResponse) :
    (serviceStages contentFirst).Within upper lower (retrieve onError notFound lookup) := by
  refine within.mapLeft.chain le_rfl fun found => ?_
  cases found <;> exact Nat.le_refl upper

theorem within_getMessageWithContent (fiscalCode : FiscalCode) (messageId : NonEmptyString) :
    (serviceStages contentFirst).Within 4 2
      (getMessageWithContent contentFirst fiscalCode messageId) := by
  apply Stages.Within.map
  cases contentFirst with
  | true =>
      have content : (serviceStages true).Within 3 2 (getMessageContent messageId) :=
        within_retrieve (within_request rfl) _ _
      have metadata : (serviceStages true).Within 4 3 (getMessageMetadata fiscalCode messageId) :=
        within_retrieve (within_request rfl) _ _
      exact content.bind (by omega) fun _ => metadata.bind le_rfl fun _ => le_rfl
  | false =>
      have metadata : (serviceStages false).Within 3 2 (getMessageMetadata fiscalCode messageId) :=
        within_retrieve (within_request rfl) _ _
      have content : (serviceStages false).Within 4 3 (getMessageContent messageId) :=
        within_retrieve (within_request rfl) _ _
      exact metadata.bind (by omega) fun _ => content.bind le_rfl fun _ => le_rfl

theorem within_getUserSessionStatusReader (fiscalCode : FiscalCode) :
    (serviceStages contentFirst).Within 2 1 (getUserSessionStatusReader fiscalCode) := by
  have asked : (serviceStages contentFirst).Within 2 1 (request (.getSession fiscalCode)) :=
    within_request rfl
  refine Stages.Within.chain (?_ : (serviceStages contentFirst).Within 2 1 _) le_rfl ?_
  · exact asked.mapLeft.chain le_rfl fun _ => Stages.Within.mapLeft le_rfl
  · intro response
    cases response <;> exact Nat.le_refl 2

def place (rank : ℕ) : ℕ := if rank ≤ 2 then rank else rank + 1

theorem within_implement_of_some {command : Dependency} {rank : ℕ}
    (ranked : dependencyStages.rank command = some rank) :
    (serviceStages contentFirst).Within (place (rank + 1)) (place rank)
      (implement toHash contentFirst command) := by
  cases command with
  | retrieveUserProfile fiscalCode =>
      cases ranked
      exact within_retrieve (within_request rfl) _ _
  | retrieveUserSession fiscalCode =>
      cases ranked
      exact within_getUserSessionStatusReader fiscalCode
  | retrieveMessageWithContent fiscalCode messageId =>
      cases ranked
      exact within_getMessageWithContent fiscalCode messageId
  | retrieveService serviceId =>
      cases ranked
      exact within_retrieve (within_request rfl) _ _
  | sendNotification fiscalCode messageId title body =>
      cases ranked
      exact (within_request rfl).mapLeft.map
  | _ => cases ranked

theorem within_implement_of_none {command : Dependency}
    (unranked : dependencyStages.rank command = none) (bound : ℕ) :
    (serviceStages contentFirst).Within bound bound (implement toHash contentFirst command) := by
  cases command with
  | error | warning | trackEvent =>
      exact (Stages.within_call_of_none rfl).mpr fun _ => le_rfl
  | silentPushPrinter | verbosePushPrinter => exact Nat.le_refl bound
  | _ => cases unranked

/-- The endpoint asks every service once at most, and sends in the end. -/
theorem within_notify (auth : AzureApiAuth) (request : NotifyRequest) :
    (serviceStages contentFirst).Within 6 0 (notify auth toHash contentFirst request) := by
  have handled : (serviceStages contentFirst).Within 6 0
      ((notifyHandler toHash request.notificationInfo).interpret
        (implement toHash contentFirst)) := by
    apply (within_notifyHandler toHash request.notificationInfo).interpret place
    · intro first second ordered
      unfold place
      split <;> split <;> omega
    · exact fun command unranked bound => within_implement_of_none toHash unranked bound
    · exact fun command rank ranked => within_implement_of_some toHash ranked
    · omega
  refine Stages.Within.fold (?_ : (serviceStages contentFirst).Within 6 0 _) le_rfl
    (fun _ => le_rfl) fun _ => le_rfl
  refine Stages.Within.fold (?_ : (serviceStages contentFirst).Within 0 0 _) (by omega)
    (fun _ => Nat.zero_le 6) fun _ => ?_
  · exact Stages.Within.chain (Nat.le_refl 0) le_rfl fun _ => le_rfl
  · exact handled.bind le_rfl fun _ => le_rfl

end Services

section Middlewares

variable {auth : AzureApiAuth} {contentFirst : Bool} {request : NotifyRequest}

theorem notify_eq_of_passes (passes : Passes auth request) :
    notify auth toHash contentFirst request =
      (notifyHandler toHash request.notificationInfo).interpret
        (implement toHash contentFirst) := by
  obtain ⟨message, reminder⟩ := passes
  unfold notify
  rw [message]
  simp only [fromEither, chainEitherK, chain, fold_done_ok, reminder, mapM, toUnion, fold_of_bind,
    fold_of]
  exact Program.bind_result _

variable (contentFirst) in
theorem notify_eq_of_not_passes (refused : ¬ Passes auth request) :
    ∃ response : NotifyResponse, notify auth toHash contentFirst request = .done response ∧
      response.status = 403 := by
  unfold notify
  cases message : auth.azureAllowBodyPayloadMiddleware messageNotificationInfo
      [.ApiNewMessageNotify] request.xUserGroups request.notificationInfo with
  | error response => exact ⟨response, rfl, auth.forbidden _ _ _ _ _ message⟩
  | ok =>
      cases reminder : auth.azureAllowBodyPayloadMiddleware reminderNotificationInfo
          [.ApiReminderNotify] request.xUserGroups request.notificationInfo with
      | error response => exact ⟨response, rfl, auth.forbidden _ _ _ _ _ reminder⟩
      | ok => exact absurd ⟨message, reminder⟩ refused

end Middlewares

end ServiceMessages.Notify
