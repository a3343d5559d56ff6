import ServiceMessages.Interaction.Veil
import ServiceMessages.Notify.Queue

/-!
# Who learns the fiscal code

The fiscal code is the key of three lookups.  Everything else that a request
makes the function do is done by a program that has never seen the code but
only its hash, and whose lookups are completed by somebody else.
-/

namespace ServiceMessages.Notify

open Interaction TaskEither

/-- The commands of a request, as they are to somebody who does not know the
fiscal code. -/
inductive BlindService where
  | findLastVersionByModelId
  | getSession
  | findMessageForRecipient (messageId : NonEmptyString)
  | getContentFromBlob (messageId : NonEmptyString)
  | findOneByServiceId (serviceId : NonEmptyString)
  | sendMessage (messageText : String)
  | logError (text : String)
  | logWarn (text : String)
  | trackEvent (name : String) (properties : NotificationInfoEvent) (samplingEnabled : String)

def BlindService.reveal (fiscalCode : FiscalCode) : BlindService → Service
  | .findLastVersionByModelId => .findLastVersionByModelId fiscalCode
  | .getSession => .getSession fiscalCode
  | .findMessageForRecipient messageId => .findMessageForRecipient fiscalCode messageId
  | .getContentFromBlob messageId => .getContentFromBlob messageId
  | .findOneByServiceId serviceId => .findOneByServiceId serviceId
  | .sendMessage messageText => .sendMessage messageText
  | .logError text => .logError text
  | .logWarn text => .logWarn text
  | .trackEvent name properties samplingEnabled => .trackEvent name properties samplingEnabled

def Service.conceal : Service → BlindService
  | .findLastVersionByModelId _ => .findLastVersionByModelId
  | .getSession _ => .getSession
  | .findMessageForRecipient _ messageId => .findMessageForRecipient messageId
  | .getContentFromBlob messageId => .getContentFromBlob messageId
  | .findOneByServiceId serviceId => .findOneByServiceId serviceId
  | .sendMessage messageText => .sendMessage messageText
  | .logError text => .logError text
  | .logWarn text => .logWarn text
  | .trackEvent name properties samplingEnabled => .trackEvent name properties samplingEnabled

abbrev BlindService.Reply : BlindService → Type
  | .findLastVersionByModelId => Except CosmosErrors (Option RetrievedProfile)
  | .getSession => Except JsError (Except (List String) SessionResponse)
  | .findMessageForRecipient _ => Except CosmosErrors (Option RetrievedMessage)
  | .getContentFromBlob _ => Except JsError (Option MessageContent)
  | .findOneByServiceId _ => Except CosmosErrors (Option RetrievedService)
  | .sendMessage _ => Except JsError Unit
  | .logError _ | .logWarn _ | .trackEvent .. => Unit

abbrev BlindServices : Interface where
  Command := BlindService
  Reply := BlindService.Reply

def reveal (fiscalCode : FiscalCode) : Translation BlindServices Services where
  command := BlindService.reveal fiscalCode
  reply command reply :=
    match command with
    | .findLastVersionByModelId | .getSession | .findMessageForRecipient _
    | .getContentFromBlob _ | .findOneByServiceId _ | .sendMessage _
    | .logError _ | .logWarn _ | .trackEvent .. => reply

def conceal : Translation Services BlindServices where
  command := Service.conceal
  reply command reply :=
    match command with
    | .findLastVersionByModelId _ | .getSession _ | .findMessageForRecipient ..
    | .getContentFromBlob _ | .findOneByServiceId _ | .sendMessage _
    | .logError _ | .logWarn _ | .trackEvent .. => reply

def Dependency.about (fiscalCode : FiscalCode) : Dependency → Dependency
  | .retrieveUserProfile _ => .retrieveUserProfile fiscalCode
  | .retrieveUserSession _ => .retrieveUserSession fiscalCode
  | .retrieveMessageWithContent _ messageId => .retrieveMessageWithContent fiscalCode messageId
  | .sendNotification _ messageId notificationTitle notificationBody =>
      .sendNotification fiscalCode messageId notificationTitle notificationBody
  | command => command

def about (fiscalCode : FiscalCode) : Translation Dependencies Dependencies where
  command := Dependency.about fiscalCode
  reply command reply :=
    match command with
    | .retrieveUserProfile _ | .retrieveUserSession _ | .retrieveMessageWithContent ..
    | .sendNotification .. | .retrieveService _ | .error _ | .warning _ | .trackEvent _
    | .silentPushPrinter .. | .verbosePushPrinter .. => reply

section Handler

variable (toHash : String → String) (contentFirst : Bool) (fiscalCode pseudonym : FiscalCode)
  (messageId : NonEmptyString) (notificationType : NotificationType)

theorem translate_retrieveSessionData (userProfile : RetrievedProfile) :
    (retrieveSessionData userProfile pseudonym).translate (about fiscalCode) =
      retrieveSessionData userProfile fiscalCode := by
  unfold retrieveSessionData
  simp only [translate_orElse, translate_map]
  rfl

theorem translate_retrieveMessageOrLog :
    (retrieveMessageOrLog pseudonym messageId).translate (about fiscalCode) =
      retrieveMessageOrLog fiscalCode messageId := by
  unfold retrieveMessageOrLog
  rw [translate_mapLeftM]
  rfl

theorem translate_retrieveServiceOrLog (serviceId : NonEmptyString) :
    (retrieveServiceOrLog serviceId).translate (about fiscalCode) =
      retrieveServiceOrLog serviceId := by
  unfold retrieveServiceOrLog
  rw [translate_mapLeftM]
  rfl

theorem translate_print (verbose : Bool) (entry : NotificationEntry) :
    (print verbose notificationType entry).translate (about fiscalCode) =
      print verbose notificationType entry := by
  cases verbose <;> rfl

theorem translate_prepareNotification (userProfile : RetrievedProfile) :
    (prepareNotification (fun _ => toHash fiscalCode.text) userProfile notificationType pseudonym
        messageId).translate (about fiscalCode) =
      prepareNotification toHash userProfile notificationType fiscalCode messageId := by
  unfold prepareNotification
  simp only [translate_mapM, translate_map, translate_chain, translate_retrieveSessionData,
    translate_retrieveMessageOrLog, translate_retrieveServiceOrLog, translate_print]
  rfl

theorem translate_notifyHandler :
    (notifyHandler (fun _ => toHash fiscalCode.text)
        ⟨notificationType, pseudonym, messageId⟩).translate (about fiscalCode) =
      notifyHandler toHash ⟨notificationType, fiscalCode, messageId⟩ := by
  unfold notifyHandler
  simp only [translate_toUnion, translate_map, translate_chain, translate_mapLeftM,
    translate_fromPredicate, translate_prepareNotification]
  rfl

abbrev asking : Translation Services Services :=
  conceal.trans (reveal fiscalCode)

theorem translate_retrieve {E A : Type} (onError : E → NotifyResponse) (notFound : NotifyResponse)
    (lookup : Task E (Option A)) (translation : Translation Services Services) :
    (retrieve onError notFound lookup).translate translation =
      retrieve onError notFound (lookup.translate translation) := by
  unfold retrieve
  simp only [translate_chain, translate_mapLeft, translate_fromOption]

theorem translate_getService (serviceId : NonEmptyString) :
    (getService serviceId).translate (asking fiscalCode) = getService serviceId := by
  unfold getService
  rw [translate_retrieve]
  rfl

theorem translate_getMessageWithContent :
    (getMessageWithContent contentFirst pseudonym messageId).translate (asking fiscalCode) =
      getMessageWithContent contentFirst fiscalCode messageId := by
  unfold getMessageWithContent getMessageContent getMessageMetadata
  simp only [translate_map, translate_sequencePar, translate_retrieve]
  rfl

theorem translate_getUserSessionStatusReader :
    (getUserSessionStatusReader pseudonym).translate (asking fiscalCode) =
      getUserSessionStatusReader fiscalCode := by
  unfold getUserSessionStatusReader
  simp only [translate_chain, translate_mapLeft, translate_fromEither]
  congr 1
  funext response
  cases response <;> rfl

theorem translate_getUserProfileReader :
    (getUserProfileReader pseudonym).translate (asking fiscalCode) =
      getUserProfileReader fiscalCode := by
  unfold getUserProfileReader
  rw [translate_retrieve]
  rfl

theorem translate_sendNotification (notificationTitle notificationBody : String) :
    (sendNotification (fun _ => toHash fiscalCode.text) pseudonym messageId notificationTitle
        notificationBody).translate (asking fiscalCode) =
      sendNotification toHash fiscalCode messageId notificationTitle notificationBody := by
  unfold sendNotification
  simp only [translate_map, translate_mapLeft]
  rfl

theorem translate_implement (command : Dependency) :
    (implement toHash contentFirst ((about fiscalCode).command command)).bind
        (fun reply => .done ((about fiscalCode).reply command reply)) =
      (implement (fun _ => toHash fiscalCode.text) contentFirst command).translate
        (asking fiscalCode) := by
  cases command with
  | retrieveUserProfile pseudonym =>
      exact (Program.bind_result _).trans
        (translate_getUserProfileReader fiscalCode pseudonym).symm
  | retrieveUserSession pseudonym =>
      exact (Program.bind_result _).trans
        (translate_getUserSessionStatusReader fiscalCode pseudonym).symm
  | retrieveMessageWithContent pseudonym messageId =>
      exact (Program.bind_result _).trans
        (translate_getMessageWithContent contentFirst fiscalCode pseudonym messageId).symm
  | retrieveService serviceId =>
      exact (Program.bind_result _).trans (translate_getService fiscalCode serviceId).symm
  | sendNotification pseudonym messageId notificationTitle notificationBody =>
      exact (Program.bind_result _).trans
        (translate_sendNotification toHash fiscalCode pseudonym messageId notificationTitle
          notificationBody).symm
  | error | warning | trackEvent | silentPushPrinter | verbosePushPrinter => rfl

theorem translate_interpreted :
    ((notifyHandler (fun _ => toHash fiscalCode.text)
        ⟨notificationType, pseudonym, messageId⟩).interpret
        (implement (fun _ => toHash fiscalCode.text) contentFirst)).translate
          (asking fiscalCode) =
      (notifyHandler toHash ⟨notificationType, fiscalCode, messageId⟩).interpret
        (implement toHash contentFirst) := by
  have interpreted := Program.translate_interpret (I := Dependencies)
    (translate_implement toHash contentFirst fiscalCode)
    (notifyHandler (fun _ => toHash fiscalCode.text) ⟨notificationType, pseudonym, messageId⟩)
  rw [translate_notifyHandler] at interpreted
  exact interpreted

end Handler

/-- A request without its fiscal code. -/
structure BlindArrival where
  xUserGroups : Option String
  notification_type : NotificationType
  message_id : NonEmptyString
  hashedFiscalCode : String
  contentFirst : Bool

/-- The endpoint, asked about nobody. -/
def BlindArrival.aboutNobody (arrival : BlindArrival) : NotifyRequest where
  xUserGroups := arrival.xUserGroups
  notificationInfo :=
    { notification_type := arrival.notification_type
      fiscal_code := ⟨""⟩
      message_id := arrival.message_id }

def blindNotify (auth : AzureApiAuth) (arrival : BlindArrival) :
    Program BlindServices NotifyResponse :=
  (notify auth (fun _ => arrival.hashedFiscalCode) arrival.contentFirst
    arrival.aboutNobody).translate conceal

def blindQueueExec : Semantics BlindServices (List String)
  | queue, .sendMessage messageText, reply, queue' =>
      queue' = messageText :: queue ∨ queue' = queue ∧ reply ≠ .ok ()
  | queue, _, _, queue' => queue' = queue

/-- The endpoint when no fiscal code reaches it. -/
def blindSystem (auth : AzureApiAuth) :
    System BlindServices (List String) BlindArrival NotifyResponse where
  exec := blindQueueExec
  drift _ _ := False
  handler := blindNotify auth

/-- The fiscal code of a request is hidden but for its hash. -/
def fiscalCodeVeil (toHash : String → String) :
    Veil BlindServices Services Arrival BlindArrival NotifyResponse where
  view arrival :=
    { xUserGroups := arrival.request.xUserGroups
      notification_type := arrival.request.notificationInfo.notification_type
      message_id := arrival.request.notificationInfo.message_id
      hashedFiscalCode := toHash arrival.request.notificationInfo.fiscal_code.text
      contentFirst := arrival.contentFirst }
  translation arrival := reveal arrival.request.notificationInfo.fiscal_code
  Similar response shown := response.status = 403 ∧ shown.status = 403

theorem serves_blindSystem (auth : AzureApiAuth) (toHash : String → String) :
    (fiscalCodeVeil toHash).Serves (notifySystem toHash auth) (blindSystem auth) where
  handler arrival := by
    have alike : Passes auth ((fiscalCodeVeil toHash).view arrival).aboutNobody ↔
        Passes auth arrival.request := by
      rw [passes_iff, passes_iff]
      rfl
    by_cases passes : Passes auth arrival.request
    · have revealed : (notifySystem toHash auth).handler arrival =
          (blindNotify auth ((fiscalCodeVeil toHash).view arrival)).translate
            ((fiscalCodeVeil toHash).translation arrival) := by
        unfold blindNotify
        rw [notify_eq_of_passes _ (alike.mpr passes), Program.translate_translate]
        exact (notify_eq_of_passes toHash passes).trans (translate_interpreted ..).symm
      rw [revealed]
      exact .translated _
    · obtain ⟨response, answered, forbidden⟩ :=
        notify_eq_of_not_passes toHash arrival.contentFirst passes
      obtain ⟨shown, shownAnswered, shownForbidden⟩ :=
        notify_eq_of_not_passes (fun _ => ((fiscalCodeVeil toHash).view arrival).hashedFiscalCode)
          arrival.contentFirst (mt alike.mp passes)
      have covers : (fiscalCodeVeil toHash).Covers arrival (.done response) (.done shown) :=
        .answered ⟨forbidden, shownForbidden⟩
      have blindly : blindNotify auth ((fiscalCodeVeil toHash).view arrival) = .done shown :=
        congrArg (Program.translate conceal) shownAnswered
      rwa [← answered, ← blindly] at covers
  exec arrival queue command reply queue' executed := by
    cases command <;> exact executed
  drift _ _ impossible := impossible

/-- Any number of requests, in any interleaving of their commands and with any
answers of the services, are served as they would be by a system that is given
the hash of every fiscal code in place of the code: the queue is the same, and
so is every command but that a lookup is completed with the fiscal code of the
request that issued it. -/
theorem fiscal_codes_only_look_up {Thread : Type} [DecidableEq Thread] (auth : AzureApiAuth)
    (toHash : String → String) {queue : List String}
    {config : Config Services (List String) Thread Arrival NotifyResponse}
    (reaches : (notifySystem toHash auth).Reaches (.initial queue) config) :
    ∃ shown : Config BlindServices (List String) Thread BlindArrival NotifyResponse,
      (blindSystem auth).Reaches (.initial queue) shown ∧
        (fiscalCodeVeil toHash).Behind config shown := by
  have serves := serves_blindSystem auth toHash
  exact (Veil.behind_initial queue).reaches serves reaches

theorem fiscal_codes_only_look_up_sample :
    ∃ config : Config Services (List String) ℕ Arrival NotifyResponse,
      (notifySystem id .standard).Reaches (.initial []) config ∧
      ∃ shown : Config BlindServices (List String) ℕ BlindArrival NotifyResponse,
        (blindSystem .standard).Reaches (.initial []) shown ∧
          (fiscalCodeVeil id).Behind config shown ∧
          shown.world.length = 1 := by
  obtain ⟨events, runs⟩ := Program.runs_serve executes_queueReaction
    ((notifySystem id .standard).handler aReminder) [] []
  obtain ⟨config, reaches, queue, -⟩ :=
    (notifySystem id .standard).reaches_of_start 0 aReminder (.initial []) runs.advances rfl
  obtain ⟨shown, reached, behind⟩ := fiscal_codes_only_look_up .standard id reaches
  refine ⟨config, reaches, shown, reached, behind, ?_⟩
  rw [behind.world, queue]
  rfl

end ServiceMessages.Notify
