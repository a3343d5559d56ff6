import Mathlib.Data.String.Basic
import ServiceMessages.Interaction.Interpretation
import ServiceMessages.Notify.Handler
import ServiceMessages.Text.Json

/-!
# The readers, the sender and the logger

The dependencies of the handler over the services below them: the three
document stores, the blob store, the session service, the queue, the log of the
function and the telemetry.
-/

namespace ServiceMessages.Notify

open Interaction TaskEither

inductive SessionResponse where
  /-- Status 200. -/
  | success (value : UserSessionInfo)
  | failure (status : ℕ)
deriving DecidableEq

inductive Service where
  | findLastVersionByModelId (fiscalCode : FiscalCode)
  | getSession (fiscalcode : FiscalCode)
  | findMessageForRecipient (fiscalCode : FiscalCode) (messageId : NonEmptyString)
  | getContentFromBlob (messageId : NonEmptyString)
  | findOneByServiceId (serviceId : NonEmptyString)
  | sendMessage (messageText : String)
  | logError (text : String)
  | logWarn (text : String)
  | trackEvent (name : String) (properties : NotificationInfoEvent) (samplingEnabled : String)
deriving DecidableEq

/-- The session may be asked for in vain in three ways: no answer, an answer
that cannot be decoded, and an answer of another status. -/
abbrev Service.Reply : Service → Type
  | .findLastVersionByModelId _ => Except CosmosErrors (Option RetrievedProfile)
  | .getSession _ => Except JsError (Except (List String) SessionResponse)
  | .findMessageForRecipient .. => Except CosmosErrors (Option RetrievedMessage)
  | .getContentFromBlob _ => Except JsError (Option MessageContent)
  | .findOneByServiceId _ => Except CosmosErrors (Option RetrievedService)
  | .sendMessage _ => Except JsError Unit
  | .logError _ | .logWarn _ | .trackEvent .. => Unit

abbrev Services : Interface where
  Command := Service
  Reply := Service.Reply

abbrev Task := TaskEither.{0, 0} Services

def request (command : Service) : Program Services command.Reply :=
  Program.perform (I := Services) command

def retrieve {E A : Type} (onError : E → NotifyResponse) (notFound : NotifyResponse)
    (lookup : Task E (Option A)) : Task NotifyResponse A :=
  lookup |> mapLeft onError |> chain (fromOption notFound)

def getService (serviceId : NonEmptyString) : Task NotifyResponse RetrievedService :=
  request (.findOneByServiceId serviceId)
    |> retrieve (fun _ => .errorInternal "Error while retrieving the service")
      (.errorNotFound "Service not found"
        ("Service " ++ serviceId.val ++ " was not found in the system."))

def getMessageMetadata (fiscalCode : FiscalCode) (messageId : NonEmptyString) :
    Task NotifyResponse RetrievedMessage :=
  request (.findMessageForRecipient fiscalCode messageId)
    |> retrieve (fun _ => .errorInternal "Error while retrieving the message metadata")
      (.errorNotFound "Message not found"
        ("Message " ++ messageId.val ++ " was not found for the given Fiscal Code"))

def getMessageContent (messageId : NonEmptyString) : Task NotifyResponse MessageContent :=
  request (.getContentFromBlob messageId)
    |> retrieve (fun _ => .errorInternal "Error while retrieving the message")
      (.errorNotFound "Message content not found"
        ("Content of message " ++ messageId.val ++ " was not found for the given Fiscal Code"))

/-- The content and the metadata are looked up in parallel. -/
def getMessageWithContent (contentFirst : Bool) (fiscalCode : FiscalCode)
    (messageId : NonEmptyString) : Task NotifyResponse RetrievedMessageWithContent :=
  sequencePar contentFirst (getMessageContent messageId) (getMessageMetadata fiscalCode messageId)
    |> map (fun (content, metadata) => { metadata with content := content })

def getUserSessionStatusReader (fiscalCode : FiscalCode) : Task NotifyResponse UserSessionInfo :=
  request (.getSession fiscalCode)
    |> mapLeft (fun _ => .errorInternal "Error retrieving user session")
    |> chain (fun validation =>
      fromEither validation
        |> mapLeft (fun _ => .errorInternal "Error decoding user session"))
    |> chain (fun
      | .success value => of value
      | .failure _ => left (.errorInternal "Error retrieving user session"))

def getUserProfileReader (fiscalCode : FiscalCode) : Task NotifyResponse RetrievedProfile :=
  request (.findLastVersionByModelId fiscalCode)
    |> retrieve
      (fun cosmosError => .errorInternal
        ("Error while retrieving user profile from Cosmos DB - " ++ cosmosError.kind))
      (.errorNotFound "User profile not found"
        "User profile was not found for the given Fiscal Code")

structure NotifyPayload where
  message : String
  message_id : NonEmptyString
  title : String

structure NotifyMessage where
  installationId : String
  kind : String
  payload : NotifyPayload

def base64Digit (value : ℕ) : Char :=
  "ABCDEFGHIJKLMNOPQRSTUVWXYZabcdefghijklmnopqrstuvwxyz0123456789+/".toList.getD value '='

/-- Three bytes make four digits; what is missing at the end is padded. -/
def base64Encode : List UInt8 → List Char
  | first :: second :: third :: rest =>
      base64Digit (first.toNat / 4) ::
      base64Digit (first.toNat % 4 * 16 + second.toNat / 16) ::
      base64Digit (second.toNat % 16 * 4 + third.toNat / 64) ::
      base64Digit (third.toNat % 64) :: base64Encode rest
  | [first, second] =>
      [base64Digit (first.toNat / 4), base64Digit (first.toNat % 4 * 16 + second.toNat / 16),
        base64Digit (second.toNat % 16 * 4), '=']
  | [first] => [base64Digit (first.toNat / 4), base64Digit (first.toNat % 4 * 16), '=', '=']
  | [] => []

def NotifyMessage.stringify (notifyMessage : NotifyMessage) : String :=
  let quoted := Text.Codec.quoted.serialize
  "\x7b\"installationId\":" ++ quoted notifyMessage.installationId ++
    ",\"kind\":" ++ quoted notifyMessage.kind ++
    ",\"payload\":\x7b\"message\":" ++ quoted notifyMessage.payload.message ++
    ",\"message_id\":" ++ quoted notifyMessage.payload.message_id.val ++
    ",\"title\":" ++ quoted notifyMessage.payload.title ++ "\x7d\x7d"

def base64EncodeObject (notifyMessage : NotifyMessage) : String :=
  String.ofList (base64Encode notifyMessage.stringify.toUTF8.toList)

section Wiring

variable (toHash : String → String)

def notifyMessage (fiscalCode : FiscalCode) (messageId : NonEmptyString)
    (notificationTitle notificationBody : String) : NotifyMessage where
  installationId := toHash fiscalCode.text
  kind := "Notify"
  payload :=
    { message := notificationBody
      message_id := messageId
      title := notificationTitle }

def sendNotification (fiscalCode : FiscalCode) (messageId : NonEmptyString)
    (notificationTitle notificationBody : String) : Task JsError Unit :=
  request (.sendMessage (base64EncodeObject
      (notifyMessage toHash fiscalCode messageId notificationTitle notificationBody)))
    |> mapLeft (fun err =>
      .new ("Error while sending notify message to the queue [" ++ err.message ++ "]"))
    |> map (fun _ => ())

def logPrefix : String := "Notify"

/-- What every dependency of the handler is.  The printers are functions and
ask nobody. -/
def implement (contentFirst : Bool) :
    (command : Dependency) → Program Services (Dependencies.Reply command)
  | .retrieveUserProfile fiscalCode => getUserProfileReader fiscalCode
  | .retrieveUserSession fiscalCode => getUserSessionStatusReader fiscalCode
  | .retrieveMessageWithContent fiscalCode messageId =>
      getMessageWithContent contentFirst fiscalCode messageId
  | .retrieveService serviceId => getService serviceId
  | .sendNotification fiscalCode messageId notificationTitle notificationBody =>
      sendNotification toHash fiscalCode messageId notificationTitle notificationBody
  | .error s => request (.logError (logPrefix ++ "|" ++ s))
  | .warning s => request (.logWarn (logPrefix ++ "|" ++ s))
  | .trackEvent event => request (.trackEvent "send-notification.info" event "false")
  | .silentPushPrinter .. => .done ()
  | .verbosePushPrinter .. => .done ()

end Wiring

inductive UserGroup where
  | ApiNewMessageNotify
  | ApiReminderNotify
deriving DecidableEq

/-- The authorization middlewares of another package: the groups they read from
the header, and the middleware that restricts some of the payloads to some of
the groups.  A restricted payload passes when the caller belongs to one of the
groups, any other payload always, and what does not pass is forbidden. -/
structure AzureApiAuth where
  userGroups : Option String → List UserGroup
  azureAllowBodyPayloadMiddleware :
    (pattern : NotificationInfo → Bool) → (allowedGroups : List UserGroup) →
      (xUserGroups : Option String) → (payload : NotificationInfo) → Except NotifyResponse Unit
  passes_iff : ∀ pattern allowedGroups xUserGroups payload,
    azureAllowBodyPayloadMiddleware pattern allowedGroups xUserGroups payload = .ok () ↔
      (pattern payload = true → ∃ group ∈ allowedGroups, group ∈ userGroups xUserGroups)
  forbidden : ∀ pattern allowedGroups xUserGroups payload response,
    azureAllowBodyPayloadMiddleware pattern allowedGroups xUserGroups payload = .error response →
      response.status = 403

def UserGroup.name : UserGroup → String
  | .ApiNewMessageNotify => "ApiNewMessageNotify"
  | .ApiReminderNotify => "ApiReminderNotify"

/-- The header as a list of names separated by commas. -/
def AzureApiAuth.standard : AzureApiAuth where
  userGroups xUserGroups :=
    [UserGroup.ApiNewMessageNotify, .ApiReminderNotify].filter fun group =>
      (split (xUserGroups.getD "") ',').contains group.name
  azureAllowBodyPayloadMiddleware pattern allowedGroups xUserGroups payload :=
    if pattern payload && !allowedGroups.any fun group =>
        (split (xUserGroups.getD "") ',').contains group.name
    then .error (.errorForbiddenNotAuthorized none)
    else .ok ()
  passes_iff pattern allowedGroups xUserGroups payload := by
    have known (group : UserGroup) :
        group ∈ [UserGroup.ApiNewMessageNotify, .ApiReminderNotify] := by
      cases group <;> decide
    cases restricted : pattern payload <;> simp [known]
  forbidden pattern allowedGroups xUserGroups payload response refused := by
    split_ifs at refused
    cases refused
    rfl

def messageNotificationInfo (notificationInfo : NotificationInfo) : Bool :=
  notificationInfo.notification_type == .MESSAGE

def reminderNotificationInfo (notificationInfo : NotificationInfo) : Bool :=
  notificationInfo.notification_type == .REMINDER_PAYMENT ||
    notificationInfo.notification_type == .REMINDER_PAYMENT_LAST ||
    notificationInfo.notification_type == .REMINDER_READ

structure NotifyRequest where
  xUserGroups : Option String
  notificationInfo : NotificationInfo

def notify (auth : AzureApiAuth) (toHash : String → String) (contentFirst : Bool)
    (request : NotifyRequest) : Program Services NotifyResponse :=
  fromEither (auth.azureAllowBodyPayloadMiddleware messageNotificationInfo
      [.ApiNewMessageNotify] request.xUserGroups request.notificationInfo)
    |> chainEitherK (fun _ =>
      auth.azureAllowBodyPayloadMiddleware reminderNotificationInfo [.ApiReminderNotify]
        request.xUserGroups request.notificationInfo)
    |> mapM (fun _ =>
      (notifyHandler toHash request.notificationInfo).interpret (implement toHash contentFirst))
    |> toUnion

end ServiceMessages.Notify
