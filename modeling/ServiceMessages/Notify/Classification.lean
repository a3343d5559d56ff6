import ServiceMessages.Notify.Delivery

/-!
# What a refusal says about the services

Which services are to blame for the status of an answer.  A reader tells a
failure of its store from a resource that is absent, and the handler passes
this on, except for the profile.
-/

namespace ServiceMessages.Notify

open Interaction Interaction.Program TaskEither

section Blame

variable (answer : ∀ service, Services.Reply service)

/-- One of the stores or the queue reported an error. -/
def Fails : Service → Prop
  | .findLastVersionByModelId fiscalCode =>
      ∃ e, answer (.findLastVersionByModelId fiscalCode) = .error e
  | .findMessageForRecipient fiscalCode messageId =>
      ∃ e, answer (.findMessageForRecipient fiscalCode messageId) = .error e
  | .getContentFromBlob messageId => ∃ e, answer (.getContentFromBlob messageId) = .error e
  | .findOneByServiceId serviceId => ∃ e, answer (.findOneByServiceId serviceId) = .error e
  | .sendMessage messageText => ∃ e, answer (.sendMessage messageText) = .error e
  | .getSession _ | .logError _ | .logWarn _ | .trackEvent .. => False

/-- One of the stores does not have what it was asked for. -/
def Lacks : Service → Prop
  | .findLastVersionByModelId fiscalCode =>
      answer (.findLastVersionByModelId fiscalCode) = .ok none
  | .findMessageForRecipient fiscalCode messageId =>
      answer (.findMessageForRecipient fiscalCode messageId) = .ok none
  | .getContentFromBlob messageId => answer (.getContentFromBlob messageId) = .ok none
  | .findOneByServiceId serviceId => answer (.findOneByServiceId serviceId) = .ok none
  | .getSession _ | .sendMessage _ | .logError _ | .logWarn _ | .trackEvent .. => False

/-- The response of a reader says what went wrong with one of the services it
has asked. -/
def Blames (issued : List Service) (response : NotifyResponse) : Prop :=
  (response.status = 500 ∧ ∃ service ∈ issued, Fails answer service) ∨
    response.status = 404 ∧ ∃ service ∈ issued, Lacks answer service

end Blame

section Readers

variable {answer : ∀ service, Services.Reply service} {contentFirst : Bool}
  {response : NotifyResponse}

theorem Blames.mono {issued more : List Service} (blames : Blames answer issued response)
    (included : ∀ service ∈ issued, service ∈ more) : Blames answer more response := by
  rcases blames with ⟨status, service, asked, fails⟩ | ⟨status, service, asked, lacks⟩
  · exact .inl ⟨status, service, included service asked, fails⟩
  · exact .inr ⟨status, service, included service asked, lacks⟩

theorem blames_retrieve {E A : Type} {service : Service} {onError : E → NotifyResponse}
    {notFound : NotifyResponse} {lookup : Task E (Option A)}
    (failed : (retrieve onError notFound lookup).result answer = .error response)
    (fails : ∀ e, lookup.result answer = .error e → Fails answer service)
    (lacks : lookup.result answer = .ok none → Lacks answer service)
    (internal : ∀ e, (onError e).status = 500) (missing : notFound.status = 404) :
    Blames answer [service] response := by
  rcases retrieve_eq_error_iff.mp failed with ⟨e, replied, rfl⟩ | ⟨replied, rfl⟩
  · exact .inl ⟨internal e, service, List.mem_singleton_self _, fails e replied⟩
  · exact .inr ⟨missing, service, List.mem_singleton_self _, lacks replied⟩

theorem blames_getUserProfileReader {fiscalCode : FiscalCode}
    (failed : (getUserProfileReader fiscalCode).result answer = .error response) :
    Blames answer [.findLastVersionByModelId fiscalCode] response :=
  blames_retrieve failed (fun e replied => ⟨e, replied⟩) id (fun _ => rfl) rfl

theorem blames_getService {serviceId : NonEmptyString}
    (failed : (getService serviceId).result answer = .error response) :
    Blames answer [.findOneByServiceId serviceId] response :=
  blames_retrieve failed (fun e replied => ⟨e, replied⟩) id (fun _ => rfl) rfl

theorem blames_getMessageMetadata {fiscalCode : FiscalCode} {messageId : NonEmptyString}
    (failed : (getMessageMetadata fiscalCode messageId).result answer = .error response) :
    Blames answer [.findMessageForRecipient fiscalCode messageId] response :=
  blames_retrieve failed (fun e replied => ⟨e, replied⟩) id (fun _ => rfl) rfl

theorem blames_getMessageContent {messageId : NonEmptyString}
    (failed : (getMessageContent messageId).result answer = .error response) :
    Blames answer [.getContentFromBlob messageId] response :=
  blames_retrieve failed (fun e replied => ⟨e, replied⟩) id (fun _ => rfl) rfl

theorem blames_getMessageWithContent {fiscalCode : FiscalCode} {messageId : NonEmptyString}
    (failed : (getMessageWithContent contentFirst fiscalCode messageId).result answer =
      .error response) :
    Blames answer ((getMessageWithContent contentFirst fiscalCode messageId).commands answer)
      response := by
  rw [commands_getMessageWithContent]
  rw [result_getMessageWithContent] at failed
  cases content : (getMessageContent messageId).result answer with
  | error contentResponse =>
      obtain rfl : contentResponse = response := by simpa [content] using failed
      apply (blames_getMessageContent content).mono
      cases contentFirst <;> simp
  | ok found =>
      cases metadata : (getMessageMetadata fiscalCode messageId).result answer with
      | error metadataResponse =>
          obtain rfl : metadataResponse = response := by simpa [content, metadata] using failed
          apply (blames_getMessageMetadata metadata).mono
          cases contentFirst <;> simp
      | ok message => simp [content, metadata] at failed

theorem fails_of_sendNotification {toHash : String → String} {fiscalCode : FiscalCode}
    {messageId : NonEmptyString} {title body : String} {err : JsError}
    (failed : (sendNotification toHash fiscalCode messageId title body).result answer =
      .error err) :
    Fails answer (.sendMessage (base64EncodeObject
      (notifyMessage toHash fiscalCode messageId title body))) := by
  cases reply : answer (.sendMessage (base64EncodeObject
      (notifyMessage toHash fiscalCode messageId title body))) with
  | error e => exact ⟨e, reply⟩
  | ok =>
      rw [sendNotification_eq_ok_iff.mpr reply] at failed
      cases failed

end Readers

section Handler

variable (toHash : String → String) (contentFirst : Bool)
  (answer : ∀ service, Services.Reply service) (notificationInfo : NotificationInfo)

def wiredNotifyHandler : Program Services NotifyResponse :=
  (notifyHandler toHash notificationInfo).interpret (implement toHash contentFirst)

/-- The status of an answer is never worse than what the services reported in
the run, and does not depend on which of the parallel lookups completes first. -/
structure SoundlyClassified : Prop where
  internal :
    ((wiredNotifyHandler toHash contentFirst notificationInfo).result answer).status = 500 →
      ∃ service ∈ (wiredNotifyHandler toHash contentFirst notificationInfo).commands answer,
        Fails answer service
  notFound :
    ((wiredNotifyHandler toHash contentFirst notificationInfo).result answer).status = 404 →
      ∃ service ∈ (wiredNotifyHandler toHash contentFirst notificationInfo).commands answer,
        Lacks answer service
  forbidden :
    ((wiredNotifyHandler toHash contentFirst notificationInfo).result answer).status = 403 →
      ∃ userProfile,
        answer (.findLastVersionByModelId notificationInfo.fiscal_code) =
            .ok (some userProfile) ∧
          checkSendNotificationPermission userProfile notificationInfo.notification_type = false
  orderIrrelevant : ∀ contentFirst',
    (wiredNotifyHandler toHash contentFirst' notificationInfo).result answer =
      (wiredNotifyHandler toHash contentFirst notificationInfo).result answer

variable {toHash contentFirst answer notificationInfo}

theorem mem_commands_wiredNotifyHandler {command : Dependency} {service : Service}
    (issued : command ∈ (notifyHandler toHash notificationInfo).commands
      (readersAnswer toHash contentFirst answer))
    (asked : service ∈ (implement toHash contentFirst command).commands answer) :
    service ∈ (wiredNotifyHandler toHash contentFirst notificationInfo).commands answer := by
  rw [wiredNotifyHandler, commands_interpret]
  exact List.mem_flatMap.mpr ⟨command, issued, asked⟩

theorem readersAnswer_eq (contentFirst' : Bool) :
    readersAnswer toHash contentFirst' answer = readersAnswer toHash contentFirst answer := by
  funext command
  cases command with
  | retrieveMessageWithContent fiscalCode messageId =>
      exact (result_getMessageWithContent fiscalCode messageId).trans
        (result_getMessageWithContent fiscalCode messageId).symm
  | _ => rfl

/-- What a run may answer once there is a profile: it blames a service, refuses
what the profile does not permit, or has delivered. -/
theorem wiredNotifyHandler_cases
    (present : answer (.findLastVersionByModelId notificationInfo.fiscal_code) ≠ .ok none) :
    Blames answer ((wiredNotifyHandler toHash contentFirst notificationInfo).commands answer)
        ((wiredNotifyHandler toHash contentFirst notificationInfo).result answer) ∨
      (((wiredNotifyHandler toHash contentFirst notificationInfo).result answer).status = 403 ∧
        ∃ userProfile, answer (.findLastVersionByModelId notificationInfo.fiscal_code) =
            .ok (some userProfile) ∧
          checkSendNotificationPermission userProfile notificationInfo.notification_type =
            false) ∨
      ((wiredNotifyHandler toHash contentFirst notificationInfo).result answer).status = 204 := by
  have asks := fun command service =>
    @mem_commands_wiredNotifyHandler toHash contentFirst answer notificationInfo command service
  have outcome := notifyOutcome toHash (readersAnswer toHash contentFirst answer) notificationInfo
  have answered : (wiredNotifyHandler toHash contentFirst notificationInfo).result answer =
      (notifyHandler toHash notificationInfo).result (readersAnswer toHash contentFirst answer) :=
    result_interpret ..
  rw [answered]
  generalize (notifyHandler toHash notificationInfo).result _ = response at outcome ⊢
  generalize (notifyHandler toHash notificationInfo).commands _ = issued at outcome asks
  cases outcome with
  | @profileFailed response profile =>
      rcases blames_getUserProfileReader profile with
        ⟨-, service, asked, fails⟩ | ⟨-, service, asked, lacks⟩
      · refine .inl (.inl ⟨rfl, service, ?_, fails⟩)
        apply asks (.retrieveUserProfile notificationInfo.fiscal_code) _ (by simp)
        exact (commands_retrieve ..).symm ▸ asked
      · obtain rfl := List.mem_singleton.mp asked
        exact absurd lacks present
  | @refused userProfile profile permission =>
      exact .inr (.inl ⟨rfl, userProfile, getUserProfileReader_eq_ok_iff.mp profile, permission⟩)
  | messageFailed profile permission message =>
      refine .inl ((blames_getMessageWithContent message).mono fun service asked => ?_)
      exact asks (.retrieveMessageWithContent _ _) service (by simp) asked
  | @serviceFailed _ messageWithContent _ profile permission message lookup =>
      refine .inl ((blames_getService lookup).mono fun service asked => ?_)
      apply asks (.retrieveService messageWithContent.senderServiceId) service (by simp)
      exact (commands_retrieve ..).symm ▸ asked
  | @sent _ _ _ printer profile permission message lookup printed =>
      cases delivery : readersAnswer toHash contentFirst answer
          (.sendNotification notificationInfo.fiscal_code notificationInfo.message_id
            printer.title printer.body) with
      | error err =>
          refine .inl (.inl ⟨rfl, _, ?_, fails_of_sendNotification delivery⟩)
          apply asks (.sendNotification notificationInfo.fiscal_code notificationInfo.message_id
            printer.title printer.body) _ (by simp)
          exact (commands_sendNotification ..).symm ▸ List.mem_singleton_self _
      | ok => exact .inr (.inr rfl)

theorem wiredNotifyHandler_of_profileMissing
    (missing : answer (.findLastVersionByModelId notificationInfo.fiscal_code) = .ok none) :
    ((wiredNotifyHandler toHash contentFirst notificationInfo).result answer).status = 500 ∧
      ∀ service ∈ (wiredNotifyHandler toHash contentFirst notificationInfo).commands answer,
        ¬Fails answer service := by
  have profile : readersAnswer toHash contentFirst answer
      (.retrieveUserProfile notificationInfo.fiscal_code) =
        .error (.errorNotFound "User profile not found"
          "User profile was not found for the given Fiscal Code") :=
    retrieve_eq_error_iff.mpr (.inr ⟨missing, rfl⟩)
  have outcome := notifyOutcome toHash (readersAnswer toHash contentFirst answer) notificationInfo
  rw [wiredNotifyHandler, result_interpret, commands_interpret]
  generalize (notifyHandler toHash notificationInfo).result _ = response at outcome ⊢
  generalize (notifyHandler toHash notificationInfo).commands _ = issued at outcome ⊢
  cases outcome with
  | profileFailed =>
      refine ⟨rfl, ?_⟩
      intro service asked fails
      rw [List.flatMap_cons, List.flatMap_cons, List.flatMap_nil, List.append_nil,
        List.mem_append] at asked
      rcases asked with byReader | byLogger
      · obtain rfl : service = .findLastVersionByModelId notificationInfo.fiscal_code := by
          simpa [implement, getUserProfileReader, commands_retrieve, request, perform]
            using byReader
        obtain ⟨e, failed⟩ := fails
        rw [missing] at failed
        cases failed
      · obtain rfl : service = _ := List.mem_singleton.mp byLogger
        exact fails
  | refused found | messageFailed found | serviceFailed found | sent found =>
      rw [profile] at found
      cases found

/-- The classification is sound exactly when the profile is not absent. -/
theorem soundlyClassified_iff (toHash : String → String) (contentFirst : Bool)
    (answer : ∀ service, Services.Reply service) (notificationInfo : NotificationInfo) :
    SoundlyClassified toHash contentFirst answer notificationInfo ↔
      answer (.findLastVersionByModelId notificationInfo.fiscal_code) ≠ .ok none := by
  constructor
  · intro sound missing
    obtain ⟨status, nothingFails⟩ := wiredNotifyHandler_of_profileMissing missing
    obtain ⟨service, asked, fails⟩ := sound.internal status
    exact nothingFails service asked fails
  · intro present
    have reordered : ∀ contentFirst',
        (wiredNotifyHandler toHash contentFirst' notificationInfo).result answer =
          (wiredNotifyHandler toHash contentFirst notificationInfo).result answer := by
      intro contentFirst'
      simp only [wiredNotifyHandler, result_interpret]
      exact congrArg ((notifyHandler toHash notificationInfo).result ·)
        (readersAnswer_eq contentFirst')
    rcases @wiredNotifyHandler_cases toHash contentFirst answer notificationInfo present with
      (⟨status, blamed⟩ | ⟨status, blamed⟩) | ⟨status, refused⟩ | status
    · exact ⟨fun _ => blamed, by simp [status], by simp [status], reordered⟩
    · exact ⟨by simp [status], fun _ => blamed, by simp [status], reordered⟩
    · exact ⟨by simp [status], by simp [status], fun _ => refused, reordered⟩
    · exact ⟨by simp [status], by simp [status], by simp [status], reordered⟩

end Handler

def someServicesWithoutProfile : ∀ service, Services.Reply service
  | .findLastVersionByModelId _ => .ok none
  | service => someServices service

/-- Nothing fails and yet the answer is an internal error. -/
theorem internal_error_without_failure :
    ((wiredNotifyHandler id true aNotificationInfo).result someServicesWithoutProfile).status =
        500 ∧
      (∀ service ∈ (wiredNotifyHandler id true aNotificationInfo).commands
        someServicesWithoutProfile, ¬Fails someServicesWithoutProfile service) ∧
      ¬SoundlyClassified id true someServicesWithoutProfile aNotificationInfo := by
  obtain ⟨status, nothingFails⟩ := @wiredNotifyHandler_of_profileMissing id true
    someServicesWithoutProfile aNotificationInfo rfl
  refine ⟨status, nothingFails, fun sound => ?_⟩
  obtain ⟨service, asked, fails⟩ := sound.internal status
  exact nothingFails service asked fails

end ServiceMessages.Notify
