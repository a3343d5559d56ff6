import ServiceMessages.Common.Responses
import ServiceMessages.Interaction.TaskEither
import ServiceMessages.Notify.Templates

/-!
# Sending a notification

The handler over the dependencies it is given: the readers, the sender and the
logger.  The calls of a printer are commands as well, without an answer, so that
the commands of a run tell which of the printers was used.
-/

namespace ServiceMessages.Notify

open Interaction TaskEither

inductive ReminderStatus where
  | ENABLED
  | DISABLED
  | UNSET
deriving DecidableEq

inductive PushNotificationsContentType where
  | FULL
  | ANONYMOUS
  | UNSET
deriving DecidableEq

structure NotificationInfo where
  notification_type : NotificationType
  fiscal_code : FiscalCode
  message_id : NonEmptyString
deriving DecidableEq

structure RetrievedProfile where
  reminderStatus : Option ReminderStatus
  pushNotificationsContentType : Option PushNotificationsContentType
deriving DecidableEq

structure UserSessionInfo where
  active : Bool
deriving DecidableEq

structure MessageContent where
  subject : String
deriving DecidableEq

structure RetrievedMessage where
  senderServiceId : NonEmptyString
deriving DecidableEq

structure RetrievedMessageWithContent extends RetrievedMessage where
  content : MessageContent
deriving DecidableEq

structure RetrievedService where
  organizationName : NonEmptyString
  serviceName : NonEmptyString
  requireSecureChannels : Bool
deriving DecidableEq

structure NotificationInfoEvent where
  hashedFiscalCode : String
  messageId : NonEmptyString
  notificationType : NotificationType
  userSessionRetrieved : Bool
  verbose : Bool
deriving DecidableEq

/-- The endpoint never answers with a body. -/
abbrev NotifyResponse := Response Empty

inductive Dependency where
  | retrieveUserProfile (fiscalCode : FiscalCode)
  | retrieveUserSession (fiscalCode : FiscalCode)
  | retrieveMessageWithContent (fiscalCode : FiscalCode) (messageId : NonEmptyString)
  | retrieveService (serviceId : NonEmptyString)
  | sendNotification (fiscalCode : FiscalCode) (messageId : NonEmptyString)
      (notificationTitle notificationBody : String)
  | error (s : String)
  | warning (s : String)
  | trackEvent (event : NotificationInfoEvent)
  | silentPushPrinter (notificationType : NotificationType) (entry : NotificationEntry)
  | verbosePushPrinter (notificationType : NotificationType) (entry : NotificationEntry)
deriving DecidableEq

abbrev Dependency.Reply : Dependency → Type
  | .retrieveUserProfile _ => Except NotifyResponse RetrievedProfile
  | .retrieveUserSession _ => Except NotifyResponse UserSessionInfo
  | .retrieveMessageWithContent .. => Except NotifyResponse RetrievedMessageWithContent
  | .retrieveService _ => Except NotifyResponse RetrievedService
  | .sendNotification .. => Except JsError Unit
  | _ => Unit

abbrev Dependencies : Interface where
  Command := Dependency
  Reply := Dependency.Reply

abbrev DependentTask := TaskEither.{0, 0} Dependencies

def ask (command : Dependency) : Program Dependencies command.Reply :=
  Program.perform (I := Dependencies) command

def isReminderNotification (notificationType : NotificationType) : Bool :=
  [NotificationType.REMINDER_PAYMENT, .REMINDER_PAYMENT_LAST, .REMINDER_READ].contains
    notificationType

def canSendReminderNotification (retrievedUserProfile : RetrievedProfile) : Bool :=
  retrievedUserProfile.reminderStatus == some .ENABLED

def checkSendNotificationPermission (retrievedUserProfile : RetrievedProfile)
    (notificationType : NotificationType) : Bool :=
  if isReminderNotification notificationType then canSendReminderNotification retrievedUserProfile
  else false

def canSendVerboseNotification (userSessionInfo : UserSessionInfo)
    (userProfile : RetrievedProfile) : Bool :=
  userSessionInfo.active && userProfile.pushNotificationsContentType == some .FULL

structure SessionData where
  sendVerboseNotification : Bool
  userSessionRetrieved : Bool
deriving DecidableEq

/-- The session decides about the printer, and its failure does not stop the
notification. -/
def retrieveSessionData (userProfile : RetrievedProfile) (fiscalCode : FiscalCode) :
    DependentTask NotifyResponse SessionData :=
  ask (.retrieveUserSession fiscalCode)
    |> map (fun userSession =>
      { sendVerboseNotification := canSendVerboseNotification userSession userProfile
        userSessionRetrieved := true : SessionData })
    |> orElse (fun _err =>
      (ask (.warning "Error retrieving user session, switch to anonymous")).bind fun _ =>
        of { sendVerboseNotification := false, userSessionRetrieved := false })

def retrieveMessageOrLog (fiscalCode : FiscalCode) (messageId : NonEmptyString) :
    DependentTask NotifyResponse RetrievedMessageWithContent :=
  ask (.retrieveMessageWithContent fiscalCode messageId)
    |> mapLeftM (fun response =>
      (ask (.error ("Error retrieving message with content|" ++
        response.detail.getD "undefined"))).bind fun _ => .done response)

def retrieveServiceOrLog (serviceId : NonEmptyString) :
    DependentTask NotifyResponse RetrievedService :=
  ask (.retrieveService serviceId)
    |> mapLeftM (fun response =>
      (ask (.error ("Error retrieving service|" ++ response.detail.getD "undefined"))).bind
        fun _ => .done response)

def notificationEntry (messageWithContent : RetrievedMessageWithContent)
    (service : RetrievedService) : NotificationEntry where
  organizationName := service.organizationName
  serviceName := service.serviceName
  title := messageWithContent.content.subject

def print (sendVerboseNotification : Bool) (notificationType : NotificationType)
    (entry : NotificationEntry) : Program Dependencies NotificationPrinter :=
  if sendVerboseNotification then
    (ask (.verbosePushPrinter notificationType entry)).bind fun _ =>
      .done ((getPrinterForTemplate notificationType).verbosePushPrinter entry)
  else
    (ask (.silentPushPrinter notificationType entry)).bind fun _ =>
      .done ((getPrinterForTemplate notificationType).silentPushPrinter entry)

section Handler

variable (toHash : String → String)

def prepareNotification (userProfile : RetrievedProfile) (notificationType : NotificationType)
    (fiscalCode : FiscalCode) (messageId : NonEmptyString) :
    DependentTask NotifyResponse NotificationPrinter :=
  retrieveSessionData userProfile fiscalCode
    |> chain (fun session =>
      retrieveMessageOrLog fiscalCode messageId
        |> map (fun messageWithContent => (session, messageWithContent)))
    |> chain (fun (session, messageWithContent) =>
      retrieveServiceOrLog messageWithContent.senderServiceId
        |> map (fun service => (session, messageWithContent, service)))
    |> map (fun (session, messageWithContent, service) =>
      ({ session with
        sendVerboseNotification :=
          session.sendVerboseNotification && !service.requireSecureChannels },
        messageWithContent, service))
    |> mapM (fun (session, messageWithContent, service) =>
      (ask (.trackEvent
        { hashedFiscalCode := toHash fiscalCode.text
          messageId := messageId
          notificationType := notificationType
          userSessionRetrieved := session.userSessionRetrieved
          verbose := session.sendVerboseNotification })).bind fun _ =>
        .done (session, messageWithContent, service))
    |> mapM (fun (session, messageWithContent, service) =>
      print session.sendVerboseNotification notificationType
        (notificationEntry messageWithContent service))

def notifyHandler (notificationInfo : NotificationInfo) : Program Dependencies NotifyResponse :=
  ask (.retrieveUserProfile notificationInfo.fiscal_code)
    |> mapLeftM (fun _errorMsg =>
      -- the source prints the response, an object without a text of its own
      (ask (.error ("Error checking user preferences|" ++ "[object Object]"))).bind fun _ =>
        .done (.errorInternal "Error checking user preferences"))
    |> map (fun userProfile =>
      (userProfile,
        checkSendNotificationPermission userProfile notificationInfo.notification_type))
    |> chain (fun (userProfile, notificationPermission) =>
      fromPredicate (fun _ => notificationPermission) () userProfile
        |> mapLeftM (fun _ =>
          (ask (.error "Service is not allowed to send notification to user")).bind fun _ =>
            .done (.errorForbiddenNotAuthorized
              (some "You're not allowed to send the notification"))))
    |> chain (fun userProfile =>
      prepareNotification toHash userProfile notificationInfo.notification_type
        notificationInfo.fiscal_code notificationInfo.message_id)
    |> chain (fun printed =>
      ask (.sendNotification notificationInfo.fiscal_code notificationInfo.message_id
          printed.title printed.body)
        |> mapLeftM (fun err =>
          (ask (.error ("Error while sending notification to queue|" ++ err.toString))).bind
            fun _ => .done (.errorInternal "Error while sending notification to queue")))
    |> map (fun _ => .successNoContent)
    |> toUnion

end Handler

end ServiceMessages.Notify
