import ServiceMessages.Notify.Anonymity
import ServiceMessages.Notify.Readers

/-!
# Notify delivers exactly when allowed

What the handler learns from the readers, and from it when the wired endpoint
sends a message to the queue.
-/

namespace ServiceMessages.Notify

open Interaction Interaction.Program TaskEither

section Readers

variable {answer : ∀ service, Services.Reply service} {toHash : String → String}
  {contentFirst : Bool}

theorem retrieve_eq_ok_iff {E A : Type} {onError : E → NotifyResponse} {notFound : NotifyResponse}
    {lookup : Task E (Option A)} {value : A} :
    (retrieve onError notFound lookup).result answer = .ok value ↔
      lookup.result answer = .ok (some value) := by
  rw [retrieve, mapLeft, chain, fold_fold, result_fold]
  rcases lookup.result answer with error | _ | found <;> simp [fromOption, of, left]

theorem retrieve_eq_error_iff {E A : Type} {onError : E → NotifyResponse}
    {notFound response : NotifyResponse} {lookup : Task E (Option A)} :
    (retrieve onError notFound lookup).result answer = .error response ↔
      (∃ error, lookup.result answer = .error error ∧ response = onError error) ∨
        lookup.result answer = .ok none ∧ response = notFound := by
  rw [retrieve, mapLeft, chain, fold_fold, result_fold]
  rcases lookup.result answer with error | _ | found <;> simp [fromOption, of, left, eq_comm]

theorem retrieve_ne_error {E A : Type} {onError : E → NotifyResponse} {notFound : NotifyResponse}
    {lookup : Task E (Option A)} {response : NotifyResponse} (notMissing : notFound ≠ response)
    (notFailed : ∀ error, onError error ≠ response) :
    (retrieve onError notFound lookup).result answer ≠ .error response := by
  rw [Ne, retrieve_eq_error_iff]
  rintro (⟨error, -, rfl⟩ | ⟨-, rfl⟩)
  · exact notFailed error rfl
  · exact notMissing rfl

theorem commands_retrieve {E A : Type} (onError : E → NotifyResponse) (notFound : NotifyResponse)
    (lookup : Task E (Option A)) :
    (retrieve onError notFound lookup).commands answer = lookup.commands answer := by
  rw [retrieve, mapLeft, chain, fold_fold, commands_fold]
  rcases lookup.result answer with error | _ | found <;> simp [fromOption, of, left]

theorem getUserProfileReader_eq_ok_iff {fiscalCode : FiscalCode} {profile : RetrievedProfile} :
    (getUserProfileReader fiscalCode).result answer = .ok profile ↔
      answer (.findLastVersionByModelId fiscalCode) = .ok (some profile) :=
  retrieve_eq_ok_iff

theorem getService_eq_ok_iff {serviceId : NonEmptyString} {service : RetrievedService} :
    (getService serviceId).result answer = .ok service ↔
      answer (.findOneByServiceId serviceId) = .ok (some service) :=
  retrieve_eq_ok_iff

theorem getUserSessionStatusReader_eq_ok_iff {fiscalCode : FiscalCode}
    {userSession : UserSessionInfo} :
    (getUserSessionStatusReader fiscalCode).result answer = .ok userSession ↔
      answer (.getSession fiscalCode) = .ok (.ok (.success userSession)) := by
  rcases reply : answer (.getSession fiscalCode) with error | errors | value | status <;>
    simp [getUserSessionStatusReader, request, perform, mapLeft, chain, fromEither, of, left,
      reply]

theorem getMessageMetadata_eq_ok_iff {fiscalCode : FiscalCode} {messageId : NonEmptyString}
    {metadata : RetrievedMessage} :
    (getMessageMetadata fiscalCode messageId).result answer = .ok metadata ↔
      answer (.findMessageForRecipient fiscalCode messageId) = .ok (some metadata) :=
  retrieve_eq_ok_iff

theorem getMessageContent_eq_ok_iff {messageId : NonEmptyString} {content : MessageContent} :
    (getMessageContent messageId).result answer = .ok content ↔
      answer (.getContentFromBlob messageId) = .ok (some content) :=
  retrieve_eq_ok_iff

/-- The order in which the two lookups complete does not matter. -/
theorem result_getMessageWithContent (fiscalCode : FiscalCode) (messageId : NonEmptyString) :
    (getMessageWithContent contentFirst fiscalCode messageId).result answer =
      match (getMessageContent messageId).result answer,
          (getMessageMetadata fiscalCode messageId).result answer with
      | .error response, _ => .error response
      | .ok _, .error response => .error response
      | .ok content, .ok metadata => .ok { metadata with content := content } := by
  rw [getMessageWithContent, map, result_fold]
  cases contentFirst <;>
    simp only [sequencePar, fromEither, result_bind, result_done, Bool.false_eq_true, if_true,
      if_false] <;>
    cases (getMessageContent messageId).result answer <;>
    cases (getMessageMetadata fiscalCode messageId).result answer <;> rfl

theorem getMessageWithContent_eq_ok_iff {fiscalCode : FiscalCode} {messageId : NonEmptyString}
    {messageWithContent : RetrievedMessageWithContent} :
    (getMessageWithContent contentFirst fiscalCode messageId).result answer =
        .ok messageWithContent ↔
      answer (.findMessageForRecipient fiscalCode messageId) =
          .ok (some messageWithContent.toRetrievedMessage) ∧
        answer (.getContentFromBlob messageId) = .ok (some messageWithContent.content) := by
  rw [result_getMessageWithContent, ← getMessageMetadata_eq_ok_iff, ← getMessageContent_eq_ok_iff]
  cases (getMessageContent messageId).result answer <;>
    cases (getMessageMetadata fiscalCode messageId).result answer <;> simp
  constructor
  · rintro rfl
    exact ⟨rfl, rfl⟩
  · rintro ⟨rfl, rfl⟩
    rfl

theorem getMessageWithContent_ne_successNoContent (fiscalCode : FiscalCode)
    (messageId : NonEmptyString) :
    (getMessageWithContent contentFirst fiscalCode messageId).result answer ≠
      .error .successNoContent := by
  have content : (getMessageContent messageId).result answer ≠ .error .successNoContent :=
    retrieve_ne_error nofun nofun
  have metadata :
      (getMessageMetadata fiscalCode messageId).result answer ≠ .error .successNoContent :=
    retrieve_ne_error nofun nofun
  rw [result_getMessageWithContent]
  split
  · next failed =>
      rintro ⟨⟩
      exact content failed
  · next failed =>
      rintro ⟨⟩
      exact metadata failed
  · nofun

theorem getService_ne_successNoContent (serviceId : NonEmptyString) :
    (getService serviceId).result answer ≠ .error .successNoContent :=
  retrieve_ne_error nofun nofun

theorem sendNotification_eq_ok_iff {fiscalCode : FiscalCode} {messageId : NonEmptyString}
    {title body : String} :
    (sendNotification toHash fiscalCode messageId title body).result answer = .ok () ↔
      answer (.sendMessage (base64EncodeObject
        (notifyMessage toHash fiscalCode messageId title body))) = .ok () := by
  cases reply : answer (.sendMessage (base64EncodeObject
      (notifyMessage toHash fiscalCode messageId title body))) <;>
    simp [sendNotification, request, perform, mapLeft, map, of, left, reply]

end Readers

def Service.sends : Service → Bool
  | .sendMessage _ => true
  | _ => false

section Sending

variable (answer : ∀ service, Services.Reply service) (toHash : String → String)
  (contentFirst : Bool)

def message? : Dependency → Option Service
  | .sendNotification fiscalCode messageId title body =>
      some (.sendMessage (base64EncodeObject
        (notifyMessage toHash fiscalCode messageId title body)))
  | _ => none

theorem commands_getMessageWithContent (fiscalCode : FiscalCode) (messageId : NonEmptyString) :
    (getMessageWithContent contentFirst fiscalCode messageId).commands answer =
      if contentFirst then
        [.getContentFromBlob messageId, .findMessageForRecipient fiscalCode messageId]
      else [.findMessageForRecipient fiscalCode messageId, .getContentFromBlob messageId] := by
  have content :
      (getMessageContent messageId).commands answer = [.getContentFromBlob messageId] :=
    commands_retrieve ..
  have metadata : (getMessageMetadata fiscalCode messageId).commands answer =
      [.findMessageForRecipient fiscalCode messageId] :=
    commands_retrieve ..
  rw [getMessageWithContent, commands_map]
  cases contentFirst <;> simp [sequencePar, fromEither, content, metadata]

theorem commands_getUserSessionStatusReader (fiscalCode : FiscalCode) :
    (getUserSessionStatusReader fiscalCode).commands answer = [.getSession fiscalCode] := by
  rcases reply : answer (.getSession fiscalCode) with error | errors | value | status <;>
    simp [getUserSessionStatusReader, request, perform, mapLeft, chain, fromEither, of, left,
      reply]

theorem commands_sendNotification (fiscalCode : FiscalCode) (messageId : NonEmptyString)
    (title body : String) :
    (sendNotification toHash fiscalCode messageId title body).commands answer =
      [.sendMessage (base64EncodeObject
        (notifyMessage toHash fiscalCode messageId title body))] := by
  rw [sendNotification, commands_map, commands_mapLeft]
  rfl

theorem filter_sends_implement (command : Dependency) :
    ((implement toHash contentFirst command).commands answer).filter Service.sends =
      (message? toHash command).toList := by
  cases command with
  | retrieveUserProfile fiscalCode =>
      exact congrArg (List.filter Service.sends) (commands_retrieve ..)
  | retrieveUserSession fiscalCode =>
      exact congrArg (List.filter Service.sends) (commands_getUserSessionStatusReader ..)
  | retrieveMessageWithContent fiscalCode messageId =>
      apply (congrArg (List.filter Service.sends) (commands_getMessageWithContent ..)).trans
      cases contentFirst <;> rfl
  | retrieveService serviceId =>
      exact congrArg (List.filter Service.sends) (commands_retrieve ..)
  | sendNotification fiscalCode messageId title body =>
      exact congrArg (List.filter Service.sends) (commands_sendNotification ..)
  | error | warning | trackEvent | silentPushPrinter | verbosePushPrinter => rfl

theorem filter_sends_interpret {A : Type} (program : Program Dependencies A) :
    ((program.interpret (implement toHash contentFirst)).commands answer).filter Service.sends =
      ((program.commands (implementedAnswer (implement toHash contentFirst) answer)).filter
        Dependency.announces).filterMap (message? toHash) := by
  have announced : (fun command => if command.announces = true then message? toHash command
      else none) = message? toHash := by
    funext command
    cases command <;> rfl
  rw [commands_interpret, List.filter_flatMap, List.filterMap_filter, announced,
    List.filterMap_eq_flatMap_toList]
  exact congrArg (List.flatMap · _) (funext (filter_sends_implement answer toHash contentFirst))

end Sending

section Delivery

variable {auth : AzureApiAuth} {toHash : String → String} {contentFirst : Bool}
  {answer : ∀ service, Services.Reply service} {request : NotifyRequest}

/-- Everything a delivery asks for. -/
structure Deliverable (auth : AzureApiAuth) (answer : ∀ service, Services.Reply service)
    (request : NotifyRequest) : Prop where
  reminder : request.notificationInfo.notification_type ∈
    [NotificationType.REMINDER_READ, .REMINDER_PAYMENT, .REMINDER_PAYMENT_LAST]
  authorized : .ApiReminderNotify ∈ auth.userGroups request.xUserGroups
  profile : ∃ profile,
    answer (.findLastVersionByModelId request.notificationInfo.fiscal_code) =
        .ok (some profile) ∧
      profile.reminderStatus = some .ENABLED
  message : ∃ metadata,
    answer (.findMessageForRecipient request.notificationInfo.fiscal_code
        request.notificationInfo.message_id) = .ok (some metadata) ∧
      ∃ service, answer (.findOneByServiceId metadata.senderServiceId) = .ok (some service)
  content : ∃ content,
    answer (.getContentFromBlob request.notificationInfo.message_id) = .ok (some content)

/-- The answers the handler gets from the readers. -/
abbrev readersAnswer (toHash : String → String) (contentFirst : Bool)
    (answer : ∀ service, Services.Reply service) : ∀ command, Dependencies.Reply command :=
  implementedAnswer (implement toHash contentFirst) answer

theorem checkSendNotificationPermission_iff {userProfile : RetrievedProfile}
    {notificationType : NotificationType} :
    checkSendNotificationPermission userProfile notificationType = true ↔
      notificationType ∈
          [NotificationType.REMINDER_READ, .REMINDER_PAYMENT, .REMINDER_PAYMENT_LAST] ∧
        userProfile.reminderStatus = some .ENABLED := by
  cases notificationType <;>
    simp [checkSendNotificationPermission, isReminderNotification, canSendReminderNotification]

def Passes (auth : AzureApiAuth) (request : NotifyRequest) : Prop :=
  auth.azureAllowBodyPayloadMiddleware messageNotificationInfo [.ApiNewMessageNotify]
      request.xUserGroups request.notificationInfo = .ok () ∧
    auth.azureAllowBodyPayloadMiddleware reminderNotificationInfo [.ApiReminderNotify]
      request.xUserGroups request.notificationInfo = .ok ()

theorem passes_iff :
    Passes auth request ↔
      (request.notificationInfo.notification_type = .MESSAGE →
          .ApiNewMessageNotify ∈ auth.userGroups request.xUserGroups) ∧
        (request.notificationInfo.notification_type ∈
            [NotificationType.REMINDER_READ, .REMINDER_PAYMENT, .REMINDER_PAYMENT_LAST] →
          .ApiReminderNotify ∈ auth.userGroups request.xUserGroups) := by
  rw [Passes, auth.passes_iff, auth.passes_iff]
  cases notificationType : request.notificationInfo.notification_type <;>
    simp [messageNotificationInfo, reminderNotificationInfo, notificationType]

theorem deliverable_iff :
    Deliverable auth answer request ↔
      .ApiReminderNotify ∈ auth.userGroups request.xUserGroups ∧
        ∃ userProfile messageWithContent service,
          Found (readersAnswer toHash contentFirst answer) request.notificationInfo userProfile
            messageWithContent service := by
  constructor
  · rintro ⟨reminder, authorized, ⟨userProfile, profile, enabled⟩,
      ⟨metadata, message, service, lookup⟩, content, body⟩
    exact ⟨authorized, userProfile, { metadata with content := content }, service,
      getUserProfileReader_eq_ok_iff.mpr profile,
      checkSendNotificationPermission_iff.mpr ⟨reminder, enabled⟩,
      getMessageWithContent_eq_ok_iff.mpr ⟨message, body⟩, getService_eq_ok_iff.mpr lookup⟩
  · rintro ⟨authorized, userProfile, messageWithContent, service, found⟩
    obtain ⟨reminder, enabled⟩ := checkSendNotificationPermission_iff.mp found.permission
    obtain ⟨metadata, content⟩ := getMessageWithContent_eq_ok_iff.mp found.message
    exact
      { reminder := reminder
        authorized := authorized
        profile := ⟨userProfile, getUserProfileReader_eq_ok_iff.mp found.profile, enabled⟩
        message := ⟨_, metadata, service, getService_eq_ok_iff.mp found.lookup⟩
        content := ⟨_, content⟩ }

theorem status_ne_of_not_found {notificationInfo : NotificationInfo}
    (notFound : ∀ userProfile messageWithContent service,
      ¬Found (readersAnswer toHash contentFirst answer) notificationInfo userProfile
        messageWithContent service) :
    ((notifyHandler toHash notificationInfo).result
      (readersAnswer toHash contentFirst answer)).status ≠ 204 := by
  rw [Ne, Response.status_eq_204_iff]
  have outcome := notifyOutcome toHash (readersAnswer toHash contentFirst answer) notificationInfo
  generalize (notifyHandler toHash notificationInfo).result _ = response at outcome ⊢
  generalize (notifyHandler toHash notificationInfo).commands _ = issued at outcome
  cases outcome with
  | profileFailed | refused => nofun
  | messageFailed _ _ message =>
      rintro rfl
      exact getMessageWithContent_ne_successNoContent _ _ message
  | serviceFailed _ _ _ lookup =>
      rintro rfl
      exact getService_ne_successNoContent _ lookup
  | sent profile permission message lookup =>
      exact absurd ⟨profile, permission, message, lookup⟩ (notFound _ _ _)

/-- The queued text that announces a message to its recipient. -/
def announcement (toHash : String → String) (notificationInfo : NotificationInfo)
    (printer : NotificationPrinter) : String :=
  base64EncodeObject (notifyMessage toHash notificationInfo.fiscal_code
    notificationInfo.message_id printer.title printer.body)

section Middlewares

variable (toHash contentFirst answer)

theorem notify_of_passes (passes : Passes auth request) :
    (notify auth toHash contentFirst request).result answer =
        (notifyHandler toHash request.notificationInfo).result
          (readersAnswer toHash contentFirst answer) ∧
      ((notify auth toHash contentFirst request).commands answer).filter Service.sends =
        (((notifyHandler toHash request.notificationInfo).commands
          (readersAnswer toHash contentFirst answer)).filter
            Dependency.announces).filterMap (message? toHash) := by
  obtain ⟨message, reminder⟩ := passes
  rw [← filter_sends_interpret]
  constructor <;>
    simp [notify, message, reminder, chainEitherK, chain, fromEither, mapM, toUnion, fold_of_bind]

theorem notify_of_not_passes (refused : ¬ Passes auth request) :
    ((notify auth toHash contentFirst request).result answer).status = 403 ∧
      (notify auth toHash contentFirst request).commands answer = [] := by
  cases message : auth.azureAllowBodyPayloadMiddleware messageNotificationInfo
      [.ApiNewMessageNotify] request.xUserGroups request.notificationInfo with
  | error response =>
      have forbidden := auth.forbidden _ _ _ _ _ message
      constructor <;>
        simp [notify, message, chainEitherK, chain, fromEither, mapM, toUnion, forbidden]
  | ok =>
      cases reminder : auth.azureAllowBodyPayloadMiddleware reminderNotificationInfo
          [.ApiReminderNotify] request.xUserGroups request.notificationInfo with
      | error response =>
          have forbidden := auth.forbidden _ _ _ _ _ reminder
          constructor <;>
            simp [notify, message, reminder, chainEitherK, chain, fromEither, mapM, toUnion,
              forbidden]
      | ok => exact absurd ⟨message, reminder⟩ refused

end Middlewares

/-- Either a delivery is due, and then exactly one message is sent and the
response says what became of it, or nothing is sent. -/
theorem delivery (auth : AzureApiAuth) (toHash : String → String) (contentFirst : Bool)
    (answer : ∀ service, Services.Reply service) (request : NotifyRequest) :
    (Deliverable auth answer request ∧ ∃ messageText,
      ((notify auth toHash contentFirst request).commands answer).filter Service.sends =
          [.sendMessage messageText] ∧
        (((notify auth toHash contentFirst request).result answer).status = 204 ↔
          answer (.sendMessage messageText) = .ok ())) ∨
    (¬Deliverable auth answer request ∧
      ((notify auth toHash contentFirst request).commands answer).filter Service.sends = [] ∧
      ((notify auth toHash contentFirst request).result answer).status ≠ 204) := by
  by_cases passes : Passes auth request
  · obtain ⟨answered, issued⟩ := notify_of_passes toHash contentFirst answer passes
    rw [answered, issued]
    by_cases found : ∃ userProfile messageWithContent service,
        Found (readersAnswer toHash contentFirst answer) request.notificationInfo userProfile
          messageWithContent service
    · obtain ⟨userProfile, messageWithContent, service, foundAll⟩ := found
      obtain ⟨reminder, -⟩ := checkSendNotificationPermission_iff.mp foundAll.permission
      have authorized := (passes_iff.mp passes).2 reminder
      refine .inl ⟨deliverable_iff.mpr ⟨authorized, _, _, _, foundAll⟩,
        announcement toHash request.notificationInfo
          (queued (readersAnswer toHash contentFirst answer) request.notificationInfo userProfile
            messageWithContent service), ?_, ?_⟩
      · rw [foundAll.filter_announces]
        cases verbose (readersAnswer toHash contentFirst answer) userProfile
          request.notificationInfo.fiscal_code service <;> rfl
      · rw [foundAll.result, Response.status_eq_204_iff, deliveryResponse_eq_iff]
        exact sendNotification_eq_ok_iff
    · rw [filter_announces_of_not_found _ _ _ (by simpa using found)]
      refine .inr ⟨fun deliverable => found (deliverable_iff.mp deliverable).2, rfl, ?_⟩
      exact status_ne_of_not_found (by simpa using found)
  · obtain ⟨forbidden, silent⟩ := notify_of_not_passes toHash contentFirst answer passes
    rw [silent, forbidden]
    refine .inr ⟨fun deliverable => passes (passes_iff.mpr ⟨?_, fun _ => deliverable.authorized⟩),
      rfl, by decide⟩
    intro isMessage
    have reminder := deliverable.reminder
    rw [isMessage] at reminder
    simp at reminder

theorem mem_filter_sends (commands : List Service) {messageText : String} :
    .sendMessage messageText ∈ commands.filter Service.sends ↔
      .sendMessage messageText ∈ commands := by
  simp [Service.sends]

theorem sends_iff_deliverable :
    (∃ messageText,
        .sendMessage messageText ∈ (notify auth toHash contentFirst request).commands answer) ↔
      Deliverable auth answer request := by
  simp only [← mem_filter_sends ((notify _ _ _ _).commands _)]
  rcases delivery auth toHash contentFirst answer request with
    ⟨deliverable, messageText, sent, -⟩ | ⟨notDeliverable, silent, -⟩
  · simp [sent, deliverable]
  · simp [silent, notDeliverable]

theorem deliverable_congr {answer' : ∀ service, Services.Reply service}
    (same : ∀ service, (∀ fiscalcode, service ≠ .getSession fiscalcode) →
      answer' service = answer service) :
    Deliverable auth answer' request ↔ Deliverable auth answer request := by
  have profile := same (.findLastVersionByModelId request.notificationInfo.fiscal_code) nofun
  have message := same (.findMessageForRecipient request.notificationInfo.fiscal_code
    request.notificationInfo.message_id) nofun
  have content := same (.getContentFromBlob request.notificationInfo.message_id) nofun
  have lookup (serviceId) := same (.findOneByServiceId serviceId) nofun
  constructor
  · rintro ⟨reminder, authorized, profileFound, messageFound, contentFound⟩
    simp only [profile, message, content, lookup] at profileFound messageFound contentFound
    exact ⟨reminder, authorized, profileFound, messageFound, contentFound⟩
  · rintro ⟨reminder, authorized, profileFound, messageFound, contentFound⟩
    simp only [← profile, ← message, ← content, ← lookup] at profileFound messageFound contentFound
    exact ⟨reminder, authorized, profileFound, messageFound, contentFound⟩

end Delivery

/-- The endpoint sends at most one message, does so exactly when everything a
delivery asks for is there, answers 204 exactly when the queue took it, and does
not care about the session. -/
theorem notify_delivers_exactly_when_allowed (auth : AzureApiAuth) (toHash : String → String)
    (contentFirst : Bool) (answer : ∀ service, Services.Reply service) (request : NotifyRequest) :
    ((notify auth toHash contentFirst request).commands answer).countP Service.sends ≤ 1 ∧
    ((∃ messageText,
        .sendMessage messageText ∈ (notify auth toHash contentFirst request).commands answer) ↔
      Deliverable auth answer request) ∧
    (((notify auth toHash contentFirst request).result answer).status = 204 ↔
      ∃ messageText,
        .sendMessage messageText ∈ (notify auth toHash contentFirst request).commands answer ∧
          answer (.sendMessage messageText) = .ok ()) ∧
    ∀ (answer' : ∀ service, Services.Reply service) (contentFirst' : Bool),
      (∀ service, (∀ fiscalcode, service ≠ .getSession fiscalcode) →
        answer' service = answer service) →
      ((∃ messageText, .sendMessage messageText ∈
          (notify auth toHash contentFirst' request).commands answer') ↔
        ∃ messageText, .sendMessage messageText ∈
          (notify auth toHash contentFirst request).commands answer) := by
  refine ⟨?_, sends_iff_deliverable, ?_, ?_⟩
  · rw [List.countP_eq_length_filter]
    rcases delivery auth toHash contentFirst answer request with
      ⟨-, messageText, sent, -⟩ | ⟨-, silent, -⟩
    · simp [sent]
    · simp [silent]
  · simp only [← mem_filter_sends ((notify _ _ _ _).commands _)]
    rcases delivery auth toHash contentFirst answer request with
      ⟨-, messageText, sent, noContent⟩ | ⟨-, silent, content⟩
    · simp [sent, noContent]
    · simp [silent, content]
  · intro answer' contentFirst' same
    rw [sends_iff_deliverable, sends_iff_deliverable]
    exact deliverable_congr same

def someServices : ∀ service, Services.Reply service
  | .findLastVersionByModelId _ =>
      .ok (some { reminderStatus := some .ENABLED, pushNotificationsContentType := none })
  | .getSession _ => .error (.new "connect ECONNREFUSED")
  | .findMessageForRecipient .. => .ok (some { senderServiceId := aServiceId })
  | .getContentFromBlob _ => .ok (some { subject := "aSubject" })
  | .findOneByServiceId _ => .ok (some aRetrievedService)
  | .sendMessage _ => .ok ()
  | .logError _ | .logWarn _ | .trackEvent .. => ()

theorem notify_delivers_exactly_when_allowed_sample :
    ∃ messageText, .sendMessage messageText ∈
      (notify .standard id true
        { xUserGroups := some "ApiMessageRead,ApiReminderNotify"
          notificationInfo := aNotificationInfo }).commands someServices :=
  (notify_delivers_exactly_when_allowed .standard id true someServices _).2.1.mpr
    { reminder := by decide
      authorized := by decide
      profile := ⟨_, rfl, rfl⟩
      message := ⟨_, rfl, _, rfl⟩
      content := ⟨_, rfl⟩ }

end ServiceMessages.Notify
