import ServiceMessages.Notify.Outcomes

/-!
# Anonymous notifications reveal nothing

Two runs on the same request, whatever the readers answer in each of them,
queue the same notification as soon as both have a reason to be silent.
-/

namespace ServiceMessages.Notify

open Interaction

section Silence

variable (answer : ∀ command, Dependencies.Reply command)

/-- One of the four reasons for a notification to be silent. -/
inductive Anonymous (notificationInfo : NotificationInfo) : Prop where
  | sessionNotRetrieved {response} :
      answer (.retrieveUserSession notificationInfo.fiscal_code) = .error response →
      Anonymous notificationInfo
  | sessionNotActive {userSession} :
      answer (.retrieveUserSession notificationInfo.fiscal_code) = .ok userSession →
      userSession.active = false →
      Anonymous notificationInfo
  | contentTypeNotFull {userProfile} :
      answer (.retrieveUserProfile notificationInfo.fiscal_code) = .ok userProfile →
      userProfile.pushNotificationsContentType ≠ some .FULL →
      Anonymous notificationInfo
  | secureChannelsRequired {messageWithContent service} :
      answer (.retrieveMessageWithContent notificationInfo.fiscal_code
        notificationInfo.message_id) = .ok messageWithContent →
      answer (.retrieveService messageWithContent.senderServiceId) = .ok service →
      service.requireSecureChannels = true →
      Anonymous notificationInfo

variable {answer} {notificationInfo : NotificationInfo} {userProfile : RetrievedProfile}
  {messageWithContent : RetrievedMessageWithContent} {service : RetrievedService}

theorem Found.verbose_eq_false_iff
    (found : Found answer notificationInfo userProfile messageWithContent service) :
    verbose answer userProfile notificationInfo.fiscal_code service = false ↔
      Anonymous answer notificationInfo := by
  cases session : answer (.retrieveUserSession notificationInfo.fiscal_code) with
  | error response =>
      have silent : verbose answer userProfile notificationInfo.fiscal_code service = false := by
        simp [verbose, sessionData, session]
      exact iff_of_true silent (.sessionNotRetrieved session)
  | ok userSession =>
      simp only [verbose, sessionData, session, canSendVerboseNotification, Bool.and_eq_false_iff,
        beq_eq_false_iff_ne, Bool.not_eq_false']
      constructor
      · rintro ((notActive | notFull) | secure)
        · exact .sessionNotActive session notActive
        · exact .contentTypeNotFull found.profile notFull
        · exact .secureChannelsRequired found.message found.lookup secure
      · rintro (notRetrieved | ⟨retrieved, notActive⟩ | ⟨profile, notFull⟩ |
          ⟨message, lookup, secure⟩)
        · rw [session] at notRetrieved
          cases notRetrieved
        · obtain rfl := Except.ok.inj (session.symm.trans retrieved)
          exact .inl (.inl notActive)
        · obtain rfl := Except.ok.inj (found.profile.symm.trans profile)
          exact .inl (.inr notFull)
        · obtain rfl := Except.ok.inj (found.message.symm.trans message)
          obtain rfl := Except.ok.inj (found.lookup.symm.trans lookup)
          exact .inr secure

end Silence

section Announcements

variable {toHash : String → String} {answer : ∀ command, Dependencies.Reply command}
  {notificationInfo : NotificationInfo} {userProfile : RetrievedProfile}
  {messageWithContent : RetrievedMessageWithContent} {service : RetrievedService}

theorem found_of_mem {command : Dependency} (announces : command.announces = true)
    (issued : command ∈ (notifyHandler toHash notificationInfo).commands answer) :
    ∃ userProfile messageWithContent service,
      Found answer notificationInfo userProfile messageWithContent service := by
  by_contra! notFound
  have announced := List.mem_filter.mpr ⟨issued, announces⟩
  rw [filter_announces_of_not_found toHash answer notificationInfo notFound] at announced
  cases announced

theorem Found.mem_iff (toHash : String → String) {command : Dependency}
    (found : Found answer notificationInfo userProfile messageWithContent service)
    (announces : command.announces = true) :
    command ∈ (notifyHandler toHash notificationInfo).commands answer ↔
      command = .trackEvent (infoEvent toHash answer notificationInfo userProfile service) ∨
      command = printerCommand (verbose answer userProfile notificationInfo.fiscal_code service)
        notificationInfo.notification_type (notificationEntry messageWithContent service) ∨
      command = .sendNotification notificationInfo.fiscal_code notificationInfo.message_id
        (queued answer notificationInfo userProfile messageWithContent service).title
        (queued answer notificationInfo userProfile messageWithContent service).body := by
  have announced := found.filter_announces toHash
  rw [← and_iff_left (a := command ∈ _) announces, ← List.mem_filter, announced]
  simp

theorem Found.mem_trackEvent_iff (toHash : String → String) {event : NotificationInfoEvent}
    (found : Found answer notificationInfo userProfile messageWithContent service) :
    .trackEvent event ∈ (notifyHandler toHash notificationInfo).commands answer ↔
      event = infoEvent toHash answer notificationInfo userProfile service := by
  rw [found.mem_iff toHash rfl]
  cases told : verbose answer userProfile notificationInfo.fiscal_code service <;>
    simp [printerCommand]

theorem Found.mem_verbosePushPrinter_iff (toHash : String → String)
    {notificationType : NotificationType} {entry : NotificationEntry}
    (found : Found answer notificationInfo userProfile messageWithContent service) :
    .verbosePushPrinter notificationType entry ∈
        (notifyHandler toHash notificationInfo).commands answer ↔
      verbose answer userProfile notificationInfo.fiscal_code service = true ∧
        notificationType = notificationInfo.notification_type ∧
        entry = notificationEntry messageWithContent service := by
  rw [found.mem_iff toHash rfl]
  cases told : verbose answer userProfile notificationInfo.fiscal_code service <;>
    simp [printerCommand]

theorem Found.mem_sendNotification_iff (toHash : String → String) {fiscalCode : FiscalCode}
    {messageId : NonEmptyString} {title body : String}
    (found : Found answer notificationInfo userProfile messageWithContent service) :
    .sendNotification fiscalCode messageId title body ∈
        (notifyHandler toHash notificationInfo).commands answer ↔
      fiscalCode = notificationInfo.fiscal_code ∧ messageId = notificationInfo.message_id ∧
        title = (queued answer notificationInfo userProfile messageWithContent service).title ∧
        body = (queued answer notificationInfo userProfile messageWithContent service).body := by
  rw [found.mem_iff toHash rfl]
  cases told : verbose answer userProfile notificationInfo.fiscal_code service <;>
    simp [printerCommand]

theorem Found.queued_eq
    (found : Found answer notificationInfo userProfile messageWithContent service)
    (silent : Anonymous answer notificationInfo) :
    queued answer notificationInfo userProfile messageWithContent service =
      (getPrinterForTemplate notificationInfo.notification_type).silentPushPrinter
        (notificationEntry messageWithContent service) := by
  rw [queued, found.verbose_eq_false_iff.mpr silent]
  rfl

theorem not_anonymous_of_mem {notificationType : NotificationType} {entry : NotificationEntry}
    (used : .verbosePushPrinter notificationType entry ∈
      (notifyHandler toHash notificationInfo).commands answer) :
    ¬Anonymous answer notificationInfo := by
  intro silent
  obtain ⟨userProfile, messageWithContent, service, found⟩ := found_of_mem rfl used
  obtain ⟨told, -, -⟩ := (found.mem_verbosePushPrinter_iff toHash).mp used
  rw [found.verbose_eq_false_iff.mpr silent] at told
  cases told

end Announcements

/-- A silent notification says the same whatever is known of its message, its
service and its user; a verbose one has no reason to be silent; and the event
tracked before the notification is sent tells the two apart. -/
theorem anonymous_notifications_reveal_nothing (toHash : String → String)
    (notificationInfo : NotificationInfo) :
    (∀ first second : (∀ command, Dependencies.Reply command),
      Anonymous first notificationInfo → Anonymous second notificationInfo →
      ∀ fiscalCode messageId title body fiscalCode' messageId' title' body',
        .sendNotification fiscalCode messageId title body ∈
          (notifyHandler toHash notificationInfo).commands first →
        .sendNotification fiscalCode' messageId' title' body' ∈
          (notifyHandler toHash notificationInfo).commands second →
        fiscalCode' = fiscalCode ∧ messageId' = messageId ∧ title' = title ∧ body' = body) ∧
    (∀ answer : (∀ command, Dependencies.Reply command),
      ∀ notificationType entry,
        .verbosePushPrinter notificationType entry ∈
          (notifyHandler toHash notificationInfo).commands answer →
        ¬Anonymous answer notificationInfo) ∧
    ∀ answer : (∀ command, Dependencies.Reply command),
      ∀ fiscalCode messageId title body,
        .sendNotification fiscalCode messageId title body ∈
          (notifyHandler toHash notificationInfo).commands answer →
        ∃ event,
          (∀ tracked, .trackEvent tracked ∈
              (notifyHandler toHash notificationInfo).commands answer ↔ tracked = event) ∧
          (event.verbose = true ↔ ∃ notificationType entry,
            .verbosePushPrinter notificationType entry ∈
              (notifyHandler toHash notificationInfo).commands answer ∧
            title = ((getPrinterForTemplate notificationType).verbosePushPrinter entry).title ∧
            body = ((getPrinterForTemplate notificationType).verbosePushPrinter entry).body) ∧
          (event.verbose = false ↔ ∀ notificationType entry,
            .verbosePushPrinter notificationType entry ∉
              (notifyHandler toHash notificationInfo).commands answer) := by
  refine ⟨?_, fun answer notificationType entry => not_anonymous_of_mem, ?_⟩
  · intro first second firstSilent secondSilent fiscalCode messageId title body
      fiscalCode' messageId' title' body' sent sent'
    obtain ⟨userProfile, messageWithContent, service, found⟩ := found_of_mem rfl sent
    obtain ⟨userProfile', messageWithContent', service', found'⟩ := found_of_mem rfl sent'
    obtain ⟨rfl, rfl, rfl, rfl⟩ := (found.mem_sendNotification_iff toHash).mp sent
    obtain ⟨rfl, rfl, rfl, rfl⟩ := (found'.mem_sendNotification_iff toHash).mp sent'
    rw [found.queued_eq firstSilent, found'.queued_eq secondSilent,
      silentPushPrinter_const _ _ (notificationEntry messageWithContent service)]
    exact ⟨rfl, rfl, rfl, rfl⟩
  · intro answer fiscalCode messageId title body sent
    obtain ⟨userProfile, messageWithContent, service, found⟩ := found_of_mem rfl sent
    obtain ⟨rfl, rfl, rfl, rfl⟩ := (found.mem_sendNotification_iff toHash).mp sent
    refine ⟨infoEvent toHash answer notificationInfo userProfile service,
      fun tracked => found.mem_trackEvent_iff toHash, ?_, ?_⟩
    · cases told : verbose answer userProfile notificationInfo.fiscal_code service <;>
        simp [found.mem_verbosePushPrinter_iff toHash, infoEvent, queued, printed, told]
    · cases told : verbose answer userProfile notificationInfo.fiscal_code service <;>
        simp [found.mem_verbosePushPrinter_iff toHash, infoEvent, told]

def aNotificationInfo : NotificationInfo where
  notification_type := .REMINDER_READ
  fiscal_code := ⟨"AAABBB80A01C123D"⟩
  message_id := ⟨"aMessageId", by decide⟩

def aServiceId : NonEmptyString :=
  ⟨"aServiceId", by decide⟩

def aRetrievedService : RetrievedService where
  organizationName := ⟨"anOrganization", by decide⟩
  serviceName := ⟨"aService", by decide⟩
  requireSecureChannels := false

def someAnswer (contentType : PushNotificationsContentType) (subject : String) :
    ∀ command, Dependencies.Reply command
  | .retrieveUserProfile _ =>
      .ok { reminderStatus := some .ENABLED, pushNotificationsContentType := some contentType }
  | .retrieveUserSession _ =>
      if contentType = .FULL then .error (.errorInternal "Error while retrieving user session")
      else .ok { active := true }
  | .retrieveMessageWithContent .. =>
      .ok { senderServiceId := aServiceId, content := { subject := subject } }
  | .retrieveService _ => .ok aRetrievedService
  | .sendNotification .. => .ok ()
  | .error _ | .warning _ | .trackEvent _ | .silentPushPrinter .. | .verbosePushPrinter .. => ()

theorem someAnswer_sent (contentType : PushNotificationsContentType) (subject : String)
    (silent : Anonymous (someAnswer contentType subject) aNotificationInfo) :
    .sendNotification aNotificationInfo.fiscal_code aNotificationInfo.message_id
        "Hai un messaggio non letto" "Entra nell'app per leggerlo" ∈
      (notifyHandler id aNotificationInfo).commands (someAnswer contentType subject) := by
  have found : Found (someAnswer contentType subject) aNotificationInfo _ _ _ :=
    ⟨rfl, rfl, rfl, rfl⟩
  rw [found.mem_sendNotification_iff, queued, found.verbose_eq_false_iff.mpr silent]
  exact ⟨rfl, rfl, rfl, rfl⟩

theorem anonymous_notifications_reveal_nothing_sample :
    ∃ title body,
      .sendNotification aNotificationInfo.fiscal_code aNotificationInfo.message_id title body ∈
        (notifyHandler id aNotificationInfo).commands (someAnswer .FULL "A fine") ∧
      ∀ title' body',
        .sendNotification aNotificationInfo.fiscal_code aNotificationInfo.message_id title'
            body' ∈
          (notifyHandler id aNotificationInfo).commands (someAnswer .ANONYMOUS "A refund") →
        title' = title ∧ body' = body := by
  have first : Anonymous (someAnswer .FULL "A fine") aNotificationInfo :=
    .sessionNotRetrieved rfl
  have second : Anonymous (someAnswer .ANONYMOUS "A refund") aNotificationInfo :=
    .contentTypeNotFull rfl (by decide)
  refine ⟨_, _, someAnswer_sent .FULL "A fine" first, fun title' body' sent' => ?_⟩
  obtain ⟨-, -, same⟩ := (anonymous_notifications_reveal_nothing id aNotificationInfo).1 _ _
    first second _ _ _ _ _ _ _ _ (someAnswer_sent .FULL "A fine" first) sent'
  exact same

end ServiceMessages.Notify
