import ServiceMessages.Interaction.Interpretation
import ServiceMessages.Notify.Handler

/-!
# How a notification may end

The commands and the response of `notifyHandler`, for all answers of its
dependencies.  No run asks a dependency the same thing twice, so a function
gives all the answers of a run.
-/

namespace ServiceMessages.Notify

open Interaction TaskEither

variable (toHash : String → String) (answer : ∀ command, Dependencies.Reply command)

def sessionData (userProfile : RetrievedProfile) (fiscalCode : FiscalCode) : SessionData :=
  match answer (.retrieveUserSession fiscalCode) with
  | .ok userSession =>
      { sendVerboseNotification := canSendVerboseNotification userSession userProfile
        userSessionRetrieved := true }
  | .error _ => { sendVerboseNotification := false, userSessionRetrieved := false }

def sessionCommands (fiscalCode : FiscalCode) : List Dependency :=
  match answer (.retrieveUserSession fiscalCode) with
  | .ok _ => [.retrieveUserSession fiscalCode]
  | .error _ =>
      [.retrieveUserSession fiscalCode,
        .warning "Error retrieving user session, switch to anonymous"]

/-- Whether the notification may tell what the message is about. -/
def verbose (userProfile : RetrievedProfile) (fiscalCode : FiscalCode)
    (service : RetrievedService) : Bool :=
  (sessionData answer userProfile fiscalCode).sendVerboseNotification &&
    !service.requireSecureChannels

def printerCommand (sendVerboseNotification : Bool) (notificationType : NotificationType)
    (entry : NotificationEntry) : Dependency :=
  if sendVerboseNotification then .verbosePushPrinter notificationType entry
  else .silentPushPrinter notificationType entry

def printed (sendVerboseNotification : Bool) (notificationType : NotificationType)
    (entry : NotificationEntry) : NotificationPrinter :=
  if sendVerboseNotification then (getPrinterForTemplate notificationType).verbosePushPrinter entry
  else (getPrinterForTemplate notificationType).silentPushPrinter entry

def infoEvent (notificationInfo : NotificationInfo) (userProfile : RetrievedProfile)
    (service : RetrievedService) : NotificationInfoEvent where
  hashedFiscalCode := toHash notificationInfo.fiscal_code.text
  messageId := notificationInfo.message_id
  notificationType := notificationInfo.notification_type
  userSessionRetrieved :=
    (sessionData answer userProfile notificationInfo.fiscal_code).userSessionRetrieved
  verbose := verbose answer userProfile notificationInfo.fiscal_code service

def deliveryResponse : Except JsError Unit → NotifyResponse
  | .ok _ => .successNoContent
  | .error _ => .errorInternal "Error while sending notification to queue"

theorem deliveryResponse_eq_iff {delivery : Except JsError Unit} :
    deliveryResponse delivery = .successNoContent ↔ delivery = .ok () := by
  cases delivery <;> simp [deliveryResponse]

def deliveryCommands : Except JsError Unit → List Dependency
  | .ok _ => []
  | .error err => [.error ("Error while sending notification to queue|" ++ err.toString)]

/-- How a run may end, with the commands it has issued.  Every alternative
names the answers that decide it. -/
inductive NotifyOutcome (notificationInfo : NotificationInfo) :
    List Dependency → NotifyResponse → Prop where
  | profileFailed {response} :
      answer (.retrieveUserProfile notificationInfo.fiscal_code) = .error response →
      NotifyOutcome notificationInfo
        [.retrieveUserProfile notificationInfo.fiscal_code,
          .error ("Error checking user preferences|" ++ "[object Object]")]
        (.errorInternal "Error checking user preferences")
  | refused {userProfile} :
      answer (.retrieveUserProfile notificationInfo.fiscal_code) = .ok userProfile →
      checkSendNotificationPermission userProfile notificationInfo.notification_type = false →
      NotifyOutcome notificationInfo
        [.retrieveUserProfile notificationInfo.fiscal_code,
          .error "Service is not allowed to send notification to user"]
        (.errorForbiddenNotAuthorized (some "You're not allowed to send the notification"))
  | messageFailed {userProfile response} :
      answer (.retrieveUserProfile notificationInfo.fiscal_code) = .ok userProfile →
      checkSendNotificationPermission userProfile notificationInfo.notification_type = true →
      answer (.retrieveMessageWithContent notificationInfo.fiscal_code
        notificationInfo.message_id) = .error response →
      NotifyOutcome notificationInfo
        ([.retrieveUserProfile notificationInfo.fiscal_code] ++
          sessionCommands answer notificationInfo.fiscal_code ++
          [.retrieveMessageWithContent notificationInfo.fiscal_code notificationInfo.message_id,
            .error ("Error retrieving message with content|" ++
              response.detail.getD "undefined")])
        response
  | serviceFailed {userProfile messageWithContent response} :
      answer (.retrieveUserProfile notificationInfo.fiscal_code) = .ok userProfile →
      checkSendNotificationPermission userProfile notificationInfo.notification_type = true →
      answer (.retrieveMessageWithContent notificationInfo.fiscal_code
        notificationInfo.message_id) = .ok messageWithContent →
      answer (.retrieveService messageWithContent.senderServiceId) = .error response →
      NotifyOutcome notificationInfo
        ([.retrieveUserProfile notificationInfo.fiscal_code] ++
          sessionCommands answer notificationInfo.fiscal_code ++
          [.retrieveMessageWithContent notificationInfo.fiscal_code notificationInfo.message_id,
            .retrieveService messageWithContent.senderServiceId,
            .error ("Error retrieving service|" ++ response.detail.getD "undefined")])
        response
  | sent {userProfile messageWithContent service message} :
      answer (.retrieveUserProfile notificationInfo.fiscal_code) = .ok userProfile →
      checkSendNotificationPermission userProfile notificationInfo.notification_type = true →
      answer (.retrieveMessageWithContent notificationInfo.fiscal_code
        notificationInfo.message_id) = .ok messageWithContent →
      answer (.retrieveService messageWithContent.senderServiceId) = .ok service →
      message = printed (verbose answer userProfile notificationInfo.fiscal_code service)
        notificationInfo.notification_type (notificationEntry messageWithContent service) →
      NotifyOutcome notificationInfo
        ([.retrieveUserProfile notificationInfo.fiscal_code] ++
          sessionCommands answer notificationInfo.fiscal_code ++
          [.retrieveMessageWithContent notificationInfo.fiscal_code notificationInfo.message_id,
            .retrieveService messageWithContent.senderServiceId,
            .trackEvent (infoEvent toHash answer notificationInfo userProfile service),
            printerCommand (verbose answer userProfile notificationInfo.fiscal_code service)
              notificationInfo.notification_type (notificationEntry messageWithContent service),
            .sendNotification notificationInfo.fiscal_code notificationInfo.message_id
              message.title message.body] ++
          deliveryCommands (answer (.sendNotification notificationInfo.fiscal_code
            notificationInfo.message_id message.title message.body)))
        (deliveryResponse (answer (.sendNotification notificationInfo.fiscal_code
          notificationInfo.message_id message.title message.body)))

section Parts

@[simp]
theorem result_retrieveSessionData (userProfile : RetrievedProfile) (fiscalCode : FiscalCode) :
    (retrieveSessionData userProfile fiscalCode).result answer =
      .ok (sessionData answer userProfile fiscalCode) := by
  cases reply : answer (.retrieveUserSession fiscalCode) <;>
    simp [retrieveSessionData, ask, Program.perform, map, orElse, of, sessionData, reply]

@[simp]
theorem commands_retrieveSessionData (userProfile : RetrievedProfile) (fiscalCode : FiscalCode) :
    (retrieveSessionData userProfile fiscalCode).commands answer =
      sessionCommands answer fiscalCode := by
  cases reply : answer (.retrieveUserSession fiscalCode) <;>
    simp [retrieveSessionData, ask, Program.perform, map, orElse, of, sessionCommands, reply]

@[simp]
theorem result_print (sendVerboseNotification : Bool) (notificationType : NotificationType)
    (entry : NotificationEntry) :
    (print sendVerboseNotification notificationType entry).result answer =
      printed sendVerboseNotification notificationType entry := by
  cases sendVerboseNotification <;> rfl

@[simp]
theorem commands_print (sendVerboseNotification : Bool) (notificationType : NotificationType)
    (entry : NotificationEntry) :
    (print sendVerboseNotification notificationType entry).commands answer =
      [printerCommand sendVerboseNotification notificationType entry] := by
  cases sendVerboseNotification <;> rfl

variable {answer} (userProfile : RetrievedProfile) {notificationInfo : NotificationInfo}
  {messageWithContent : RetrievedMessageWithContent} {service : RetrievedService}
  {response : NotifyResponse}

theorem prepareNotification_of_messageFailed
    (message : answer (.retrieveMessageWithContent notificationInfo.fiscal_code
      notificationInfo.message_id) = .error response) :
    let preparation := prepareNotification toHash userProfile
      notificationInfo.notification_type notificationInfo.fiscal_code notificationInfo.message_id
    preparation.result answer = .error response ∧
      preparation.commands answer =
        sessionCommands answer notificationInfo.fiscal_code ++
          [.retrieveMessageWithContent notificationInfo.fiscal_code notificationInfo.message_id,
            .error ("Error retrieving message with content|" ++
              response.detail.getD "undefined")] := by
  constructor <;>
    simp [prepareNotification, retrieveMessageOrLog, ask, Program.perform, mapLeftM, mapM, map,
      chain, result_fold, commands_fold, of, left, message]

theorem prepareNotification_of_serviceFailed
    (message : answer (.retrieveMessageWithContent notificationInfo.fiscal_code
      notificationInfo.message_id) = .ok messageWithContent)
    (lookup : answer (.retrieveService messageWithContent.senderServiceId) = .error response) :
    let preparation := prepareNotification toHash userProfile
      notificationInfo.notification_type notificationInfo.fiscal_code notificationInfo.message_id
    preparation.result answer = .error response ∧
      preparation.commands answer =
        sessionCommands answer notificationInfo.fiscal_code ++
          [.retrieveMessageWithContent notificationInfo.fiscal_code notificationInfo.message_id,
            .retrieveService messageWithContent.senderServiceId,
            .error ("Error retrieving service|" ++ response.detail.getD "undefined")] := by
  constructor <;>
    simp [prepareNotification, retrieveMessageOrLog, retrieveServiceOrLog, ask, Program.perform,
      mapLeftM, mapM, map, chain, result_fold, commands_fold, of, left, message, lookup]

theorem prepareNotification_of_found
    (message : answer (.retrieveMessageWithContent notificationInfo.fiscal_code
      notificationInfo.message_id) = .ok messageWithContent)
    (lookup : answer (.retrieveService messageWithContent.senderServiceId) = .ok service) :
    let preparation := prepareNotification toHash userProfile
      notificationInfo.notification_type notificationInfo.fiscal_code notificationInfo.message_id
    let sendVerboseNotification :=
      verbose answer userProfile notificationInfo.fiscal_code service
    let entry := notificationEntry messageWithContent service
    preparation.result answer =
        .ok (printed sendVerboseNotification notificationInfo.notification_type entry) ∧
      preparation.commands answer =
        sessionCommands answer notificationInfo.fiscal_code ++
          [.retrieveMessageWithContent notificationInfo.fiscal_code notificationInfo.message_id,
            .retrieveService messageWithContent.senderServiceId,
            .trackEvent (infoEvent toHash answer notificationInfo userProfile service),
            printerCommand sendVerboseNotification notificationInfo.notification_type
              entry] := by
  constructor <;>
    simp [prepareNotification, retrieveMessageOrLog, retrieveServiceOrLog, ask, Program.perform,
      mapLeftM, mapM, map, chain, result_fold, commands_fold, of, left, message, lookup,
      verbose, infoEvent]

variable {userProfile}

theorem notifyHandler_of_permitted
    (profile : answer (.retrieveUserProfile notificationInfo.fiscal_code) = .ok userProfile)
    (permission :
      checkSendNotificationPermission userProfile notificationInfo.notification_type = true) :
    let preparation := prepareNotification toHash userProfile
      notificationInfo.notification_type notificationInfo.fiscal_code notificationInfo.message_id
    (notifyHandler toHash notificationInfo).result answer =
        (match preparation.result answer with
          | .error response => response
          | .ok message => deliveryResponse (answer (.sendNotification
              notificationInfo.fiscal_code notificationInfo.message_id message.title
              message.body))) ∧
      (notifyHandler toHash notificationInfo).commands answer =
        [.retrieveUserProfile notificationInfo.fiscal_code] ++ preparation.commands answer ++
          match preparation.result answer with
          | .error _ => []
          | .ok message =>
              .sendNotification notificationInfo.fiscal_code notificationInfo.message_id
                  message.title message.body ::
                deliveryCommands (answer (.sendNotification notificationInfo.fiscal_code
                  notificationInfo.message_id message.title message.body)) := by
  intro preparation
  cases prepared : preparation.result answer with
  | error response =>
      constructor <;>
        simp [notifyHandler, ask, Program.perform, mapLeftM, map, chain, toUnion, fromPredicate,
          result_fold, commands_fold, left, profile, permission, preparation, prepared]
  | ok message =>
      cases delivery : answer (.sendNotification notificationInfo.fiscal_code
          notificationInfo.message_id message.title message.body) <;>
        constructor <;>
          simp [notifyHandler, ask, Program.perform, mapLeftM, map, chain, toUnion,
            fromPredicate, result_fold, commands_fold, of, left, profile, permission,
            preparation, prepared, delivery, deliveryResponse, deliveryCommands]

end Parts

theorem notifyOutcome (notificationInfo : NotificationInfo) :
    NotifyOutcome toHash answer notificationInfo
      ((notifyHandler toHash notificationInfo).commands answer)
      ((notifyHandler toHash notificationInfo).result answer) := by
  cases profile : answer (.retrieveUserProfile notificationInfo.fiscal_code) with
  | error response =>
      have outcome : NotifyOutcome toHash answer notificationInfo _ _ := .profileFailed profile
      simpa [notifyHandler, ask, Program.perform, mapLeftM, map, chain, toUnion, profile]
        using outcome
  | ok userProfile =>
      cases permission :
          checkSendNotificationPermission userProfile notificationInfo.notification_type with
      | false =>
          have outcome : NotifyOutcome toHash answer notificationInfo _ _ :=
            .refused profile permission
          simpa [notifyHandler, ask, Program.perform, mapLeftM, map, chain, toUnion,
            fromPredicate, profile, permission] using outcome
      | true =>
          obtain ⟨answered, issued⟩ := notifyHandler_of_permitted toHash profile permission
          rw [answered, issued]
          cases message : answer (.retrieveMessageWithContent notificationInfo.fiscal_code
              notificationInfo.message_id) with
          | error response =>
              obtain ⟨failed, asked⟩ :=
                prepareNotification_of_messageFailed toHash userProfile message
              rw [failed, asked]
              simpa using NotifyOutcome.messageFailed profile permission message
          | ok messageWithContent =>
              cases lookup : answer (.retrieveService messageWithContent.senderServiceId) with
              | error response =>
                  obtain ⟨failed, asked⟩ :=
                    prepareNotification_of_serviceFailed toHash userProfile message lookup
                  rw [failed, asked]
                  simpa using NotifyOutcome.serviceFailed profile permission message lookup
              | ok service =>
                  obtain ⟨prepared, asked⟩ :=
                    prepareNotification_of_found toHash userProfile message lookup
                  rw [prepared, asked]
                  simpa using NotifyOutcome.sent profile permission message lookup rfl

/-- Everything a notification needs has been found. -/
structure Found (notificationInfo : NotificationInfo) (userProfile : RetrievedProfile)
    (messageWithContent : RetrievedMessageWithContent) (service : RetrievedService) : Prop where
  profile : answer (.retrieveUserProfile notificationInfo.fiscal_code) = .ok userProfile
  permission :
    checkSendNotificationPermission userProfile notificationInfo.notification_type = true
  message : answer (.retrieveMessageWithContent notificationInfo.fiscal_code
    notificationInfo.message_id) = .ok messageWithContent
  lookup : answer (.retrieveService messageWithContent.senderServiceId) = .ok service

/-- The commands that tell something about a message to anyone. -/
def Dependency.announces : Dependency → Bool
  | .trackEvent _ => true
  | .silentPushPrinter .. => true
  | .verbosePushPrinter .. => true
  | .sendNotification .. => true
  | _ => false

def queued (notificationInfo : NotificationInfo) (userProfile : RetrievedProfile)
    (messageWithContent : RetrievedMessageWithContent) (service : RetrievedService) :
    NotificationPrinter :=
  printed (verbose answer userProfile notificationInfo.fiscal_code service)
    notificationInfo.notification_type (notificationEntry messageWithContent service)

@[simp]
theorem filter_announces_sessionCommands (fiscalCode : FiscalCode) :
    (sessionCommands answer fiscalCode).filter Dependency.announces = [] := by
  unfold sessionCommands
  split <;> rfl

@[simp]
theorem filter_announces_deliveryCommands (delivery : Except JsError Unit) :
    (deliveryCommands delivery).filter Dependency.announces = [] := by
  cases delivery <;> rfl

theorem filter_announces_of_not_found (notificationInfo : NotificationInfo)
    (notFound : ∀ userProfile messageWithContent service,
      ¬Found answer notificationInfo userProfile messageWithContent service) :
    ((notifyHandler toHash notificationInfo).commands answer).filter
      Dependency.announces = [] := by
  have outcome := notifyOutcome toHash answer notificationInfo
  generalize (notifyHandler toHash notificationInfo).result answer = response at outcome
  generalize (notifyHandler toHash notificationInfo).commands answer = issued at outcome ⊢
  cases outcome with
  | profileFailed | refused => rfl
  | messageFailed | serviceFailed => simp [List.filter_append, Dependency.announces]
  | sent profile permission message lookup =>
      exact absurd ⟨profile, permission, message, lookup⟩ (notFound _ _ _)

section Found

variable {answer} {notificationInfo : NotificationInfo} {userProfile : RetrievedProfile}
  {messageWithContent : RetrievedMessageWithContent} {service : RetrievedService}

/-- Once everything has been found, exactly one event, one text and one notification
are announced. -/
theorem Found.filter_announces
    (found : Found answer notificationInfo userProfile messageWithContent service) :
    ((notifyHandler toHash notificationInfo).commands answer).filter Dependency.announces =
      [.trackEvent (infoEvent toHash answer notificationInfo userProfile service),
        printerCommand (verbose answer userProfile notificationInfo.fiscal_code service)
          notificationInfo.notification_type (notificationEntry messageWithContent service),
        .sendNotification notificationInfo.fiscal_code notificationInfo.message_id
          (queued answer notificationInfo userProfile messageWithContent service).title
          (queued answer notificationInfo userProfile messageWithContent service).body] := by
  obtain ⟨-, issued⟩ := notifyHandler_of_permitted toHash found.profile found.permission
  obtain ⟨prepared, asked⟩ :=
    prepareNotification_of_found toHash userProfile found.message found.lookup
  rw [issued, prepared, asked]
  cases told : verbose answer userProfile notificationInfo.fiscal_code service <;>
    simp [List.filter_append, List.filter_cons, Dependency.announces, printerCommand, queued, told]

theorem Found.result
    (found : Found answer notificationInfo userProfile messageWithContent service) :
    (notifyHandler toHash notificationInfo).result answer =
      deliveryResponse (answer (.sendNotification notificationInfo.fiscal_code
        notificationInfo.message_id
        (queued answer notificationInfo userProfile messageWithContent service).title
        (queued answer notificationInfo userProfile messageWithContent service).body)) := by
  obtain ⟨answered, -⟩ := notifyHandler_of_permitted toHash found.profile found.permission
  obtain ⟨prepared, -⟩ :=
    prepareNotification_of_found toHash userProfile found.message found.lookup
  rw [answered, prepared]
  rfl

end Found

end ServiceMessages.Notify
