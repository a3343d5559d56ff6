import ServiceMessages.Notify.Queue

/-!
# What the telemetry says about the queue

Every notification is tracked before it is sent, and the event tells truly who
is notified of what, and which of the two texts is sent.  This holds for every
request at every moment, whatever other requests do.
-/

namespace ServiceMessages.Notify

open Interaction TaskEither

variable {toHash : String → String}

def Service.tells : Service → Bool
  | .trackEvent .. => true
  | .sendMessage _ => true
  | _ => false

variable (toHash) in
def telling? : Dependency → Option Service
  | .trackEvent event => some (.trackEvent "send-notification.info" event "false")
  | .sendNotification fiscalCode messageId title body =>
      some (.sendMessage (base64EncodeObject
        (notifyMessage toHash fiscalCode messageId title body)))
  | _ => none

section Telling

variable (answer : ∀ service, Services.Reply service) (toHash) (contentFirst : Bool)

theorem filter_tells_implement (command : Dependency) :
    ((implement toHash contentFirst command).commands answer).filter Service.tells =
      (telling? toHash command).toList := by
  cases command with
  | retrieveUserProfile fiscalCode =>
      exact congrArg (List.filter Service.tells) (commands_retrieve ..)
  | retrieveUserSession fiscalCode =>
      exact congrArg (List.filter Service.tells) (commands_getUserSessionStatusReader ..)
  | retrieveMessageWithContent fiscalCode messageId =>
      apply (congrArg (List.filter Service.tells) (commands_getMessageWithContent ..)).trans
      cases contentFirst <;> rfl
  | retrieveService serviceId =>
      exact congrArg (List.filter Service.tells) (commands_retrieve ..)
  | sendNotification fiscalCode messageId title body =>
      exact congrArg (List.filter Service.tells) (commands_sendNotification ..)
  | error | warning | trackEvent | silentPushPrinter | verbosePushPrinter => rfl

theorem filter_tells_interpret {A : Type} (program : Program Dependencies A) :
    ((program.interpret (implement toHash contentFirst)).commands answer).filter Service.tells =
      ((program.commands (readersAnswer toHash contentFirst answer)).filter
        Dependency.announces).filterMap (telling? toHash) := by
  have announced : (fun command => if command.announces = true then telling? toHash command
      else none) = telling? toHash := by
    funext command
    cases command <;> rfl
  rw [Program.commands_interpret, List.filter_flatMap, List.filterMap_filter, announced,
    List.filterMap_eq_flatMap_toList]
  exact congrArg (List.flatMap · _) (funext (filter_tells_implement toHash answer contentFirst))

end Telling

/-- The session service has answered with a session. -/
def RetrievedSession (events : List (Event Services)) (fiscalCode : FiscalCode)
    (userSession : UserSessionInfo) : Prop :=
  ⟨.getSession fiscalCode, .ok (.ok (.success userSession))⟩ ∈ events

/-- An event about a notification of the request that has done all this. -/
structure Describes (toHash : String → String) (events : List (Event Services))
    (notificationInfo : NotificationInfo) (event : NotificationInfoEvent) : Prop where
  hashedFiscalCode : event.hashedFiscalCode = toHash notificationInfo.fiscal_code.text
  messageId : event.messageId = notificationInfo.message_id
  notificationType : event.notificationType = notificationInfo.notification_type
  userSessionRetrieved : event.userSessionRetrieved = true ↔
    ∃ userSession, RetrievedSession events notificationInfo.fiscal_code userSession
  verbose : event.verbose = true → ∃ userSession,
    RetrievedSession events notificationInfo.fiscal_code userSession ∧ userSession.active = true

/-- The event, and then the notification it is about: with the text that tells
what the message is about if the event says so, and else with the other one. -/
def account (toHash : String → String) (notificationInfo : NotificationInfo)
    (event : NotificationInfoEvent) (entry : NotificationEntry) : List Service :=
  [.trackEvent "send-notification.info" event "false",
    .sendMessage (announcement toHash notificationInfo
      (printed event.verbose notificationInfo.notification_type entry))]

section Account

variable {answer : ∀ command, Dependencies.Reply command} {notificationInfo : NotificationInfo}
  {userProfile : RetrievedProfile} {messageWithContent : RetrievedMessageWithContent}
  {service : RetrievedService}

variable {fiscalCode : FiscalCode}

theorem userSessionRetrieved_sessionData_iff :
    (sessionData answer userProfile fiscalCode).userSessionRetrieved = true ↔
      ∃ userSession, answer (.retrieveUserSession fiscalCode) = .ok userSession := by
  unfold sessionData
  cases answer (.retrieveUserSession fiscalCode) <;> simp

theorem exists_active_of_verbose (told : verbose answer userProfile fiscalCode service = true) :
    ∃ userSession, answer (.retrieveUserSession fiscalCode) = .ok userSession ∧
      userSession.active = true := by
  unfold verbose sessionData at told
  cases session : answer (.retrieveUserSession fiscalCode) with
  | error response =>
      rw [session] at told
      cases told
  | ok userSession =>
      rw [session] at told
      refine ⟨userSession, rfl, ?_⟩
      simp only [canSendVerboseNotification, Bool.and_eq_true] at told
      exact told.1.1

variable (toHash) in
theorem Found.filterMap_telling?
    (found : Found answer notificationInfo userProfile messageWithContent service) :
    (((notifyHandler toHash notificationInfo).commands answer).filter
        Dependency.announces).filterMap (telling? toHash) =
      account toHash notificationInfo
        (infoEvent toHash answer notificationInfo userProfile service)
        (notificationEntry messageWithContent service) := by
  rw [found.filter_announces]
  unfold account infoEvent queued
  cases verbose answer userProfile notificationInfo.fiscal_code service with
  | true => rfl
  | false => rfl

end Account

/-- Nothing at all is told, or one event and then one notification. -/
theorem filter_tells_notify (auth : AzureApiAuth) (toHash : String → String) (contentFirst : Bool)
    (answer : ∀ service, Services.Reply service) (request : NotifyRequest) :
    ((notify auth toHash contentFirst request).commands answer).filter Service.tells = [] ∨
      ∃ userProfile messageWithContent service,
        ((notify auth toHash contentFirst request).commands answer).filter Service.tells =
          account toHash request.notificationInfo
            (infoEvent toHash (readersAnswer toHash contentFirst answer) request.notificationInfo
              userProfile service)
            (notificationEntry messageWithContent service) := by
  by_cases passes : Passes auth request
  · rw [notify_eq_of_passes toHash passes, filter_tells_interpret]
    by_cases found : ∃ userProfile messageWithContent service,
        Found (readersAnswer toHash contentFirst answer) request.notificationInfo userProfile
          messageWithContent service
    · obtain ⟨userProfile, messageWithContent, service, foundAll⟩ := found
      right
      exact ⟨userProfile, messageWithContent, service, foundAll.filterMap_telling? toHash⟩
    · left
      rw [filter_announces_of_not_found _ _ _ (by simpa using found)]
      rfl
  · left
    rw [(notify_of_not_passes toHash contentFirst answer passes).2]
    rfl

section Thread

variable {Thread : Type} [DecidableEq Thread] {auth : AzureApiAuth}
  {config : Config Services (List String) Thread Arrival NotifyResponse} {thread : Thread}
  {arrival : Arrival} {program : Program Services NotifyResponse}

/-- What a request has told so far, oldest first. -/
def told (thread : Thread) (trace : List (Label Services Thread Arrival)) : List Service :=
  ((eventsOf thread trace).map Event.command).filter Service.tells

theorem told_prefix (follows : Follows (notifySystem toHash auth) (fun _ => True) config)
    (running : config.threads thread = some (arrival, program)) :
    told thread config.trace <+:
      ((notify auth toHash arrival.contentFirst arrival.request).commands
        (answerOf thread config.trace)).filter Service.tells := by
  rw [(commands_of_follows follows running).1, List.filter_append]
  exact List.prefix_append _ _

theorem told_of_answered (follows : Follows (notifySystem toHash auth) (fun _ => True) config)
    {response : NotifyResponse} (answered : config.Answered thread arrival response) :
    told thread config.trace =
      ((notify auth toHash arrival.contentFirst arrival.request).commands
        (answerOf thread config.trace)).filter Service.tells := by
  rw [(commands_of_follows follows answered).1, Program.commands_done, List.append_nil]
  rfl

theorem retrievedSession_iff
    (follows : Follows (notifySystem toHash auth) (fun _ => True) config)
    (running : config.threads thread = some (arrival, program)) {fiscalCode : FiscalCode}
    {userSession : UserSessionInfo} :
    readersAnswer toHash arrival.contentFirst (answerOf thread config.trace)
        (.retrieveUserSession fiscalCode) = .ok userSession ↔
      RetrievedSession (eventsOf thread config.trace) fiscalCode userSession := by
  have received : unanswered (.getSession fiscalCode) ≠ .ok (.ok (.success userSession)) := nofun
  exact getUserSessionStatusReader_eq_ok_iff.trans (answerOf_eq_iff follows running received)

theorem describes_infoEvent
    (follows : Follows (notifySystem toHash auth) (fun _ => True) config)
    (running : config.threads thread = some (arrival, program)) (userProfile : RetrievedProfile)
    (service : RetrievedService) :
    Describes toHash (eventsOf thread config.trace) arrival.request.notificationInfo
      (infoEvent toHash
        (readersAnswer toHash arrival.contentFirst (answerOf thread config.trace))
        arrival.request.notificationInfo userProfile service) where
  hashedFiscalCode := rfl
  messageId := rfl
  notificationType := rfl
  userSessionRetrieved := by
    apply userSessionRetrieved_sessionData_iff.trans
    exact exists_congr fun userSession => retrievedSession_iff follows running
  verbose := by
    intro told
    obtain ⟨userSession, retrieved, active⟩ := exists_active_of_verbose told
    exact ⟨userSession, (retrievedSession_iff follows running).mp retrieved, active⟩

theorem status_ne_of_tells_nothing {answer : ∀ service, Services.Reply service}
    {contentFirst : Bool} {request : NotifyRequest}
    (nothing : ((notify auth toHash contentFirst request).commands answer).filter
      Service.tells = []) :
    ((notify auth toHash contentFirst request).result answer).status ≠ 204 := by
  rcases delivery auth toHash contentFirst answer request with
    ⟨-, messageText, sent, -⟩ | ⟨-, -, other⟩
  · have issued : .sendMessage messageText ∈
        (notify auth toHash contentFirst request).commands answer := by
      rw [← mem_filter_sends, sent]
      exact List.mem_singleton_self _
    have tells := List.mem_filter.mpr ⟨issued, (rfl : Service.tells (.sendMessage _) = true)⟩
    rw [nothing] at tells
    cases tells
  · exact other

theorem status_of_account {answer : ∀ service, Services.Reply service} {contentFirst : Bool}
    {request : NotifyRequest} {event : NotificationInfoEvent} {entry : NotificationEntry}
    (whole : ((notify auth toHash contentFirst request).commands answer).filter Service.tells =
      account toHash request.notificationInfo event entry) :
    ((notify auth toHash contentFirst request).result answer).status = 204 ∨
      ((notify auth toHash contentFirst request).result answer).status = 500 := by
  have tells : .sendMessage (announcement toHash request.notificationInfo
        (printed event.verbose request.notificationInfo.notification_type entry)) ∈
      ((notify auth toHash contentFirst request).commands answer).filter Service.tells := by
    rw [whole]
    exact List.mem_cons_of_mem _ (List.mem_singleton_self _)
  exact status_of_sent (List.mem_of_mem_filter tells)

/-- At every moment of every interleaving a request has told nothing, or has
tracked one event, or has tracked one event and then sent one notification.  The
event names the hash of the fiscal code, the message and the type that the
request came with, it says truly whether the session was retrieved, and the text
that is sent is the one that the event says.  A request that has been answered
has told nothing, and then its answer is not 204, or both, and then its answer
is 204 or 500. -/
theorem telemetry_matches_queue (auth : AzureApiAuth) (toHash : String → String)
    {queue : List String} {config : Config Services (List String) Thread Arrival NotifyResponse}
    (reaches : (notifySystem toHash auth).Reaches (.initial queue) config) {thread : Thread}
    {arrival : Arrival} {program : Program Services NotifyResponse}
    (running : config.threads thread = some (arrival, program)) :
    (told thread config.trace = [] ∨
      ∃ event entry, Describes toHash (eventsOf thread config.trace)
          arrival.request.notificationInfo event ∧
        told thread config.trace <+:
          account toHash arrival.request.notificationInfo event entry) ∧
    ∀ response, program = .done response →
      told thread config.trace = [] ∧ response.status ≠ 204 ∨
      ∃ event entry, Describes toHash (eventsOf thread config.trace)
          arrival.request.notificationInfo event ∧
        told thread config.trace =
          account toHash arrival.request.notificationInfo event entry ∧
        (response.status = 204 ∨ response.status = 500) := by
  have follows : Follows (notifySystem toHash auth) (fun _ => True) config :=
    (follows_initial queue).reaches (fun _ _ _ _ _ => trivial) reaches
  have outcome := filter_tells_notify auth toHash arrival.contentFirst
    (answerOf thread config.trace) arrival.request
  constructor
  · have sofar := told_prefix follows running
    rcases outcome with nothing | ⟨userProfile, messageWithContent, service, whole⟩
    · rw [nothing] at sofar
      exact .inl (List.prefix_nil.mp sofar)
    · rw [whole] at sofar
      exact .inr ⟨_, _, describes_infoEvent follows running userProfile service, sofar⟩
  · rintro response rfl
    have answer := (commands_of_follows follows running).2
    rw [told_of_answered follows running]
    rcases outcome with nothing | ⟨userProfile, messageWithContent, service, whole⟩
    · have other := status_ne_of_tells_nothing nothing
      rw [answer] at other
      exact .inl ⟨nothing, other⟩
    · have status := status_of_account whole
      rw [answer] at status
      exact .inr ⟨_, _, describes_infoEvent follows running userProfile service, whole, status⟩

theorem telemetry_matches_queue_sample :
    ∃ config : Config Services (List String) ℕ Arrival NotifyResponse,
      (notifySystem id .standard).Reaches (.initial []) config ∧
      ∃ event entry, Describes id (eventsOf 0 config.trace)
          aReminder.request.notificationInfo event ∧
        told 0 config.trace = account id aReminder.request.notificationInfo event entry := by
  obtain ⟨events, runs⟩ := Program.runs_serve executes_queueReaction
    ((notifySystem id .standard).handler aReminder) [] []
  obtain ⟨config, reaches, -, answered, -⟩ :=
    (notifySystem id .standard).reaches_of_start 0 aReminder (.initial []) runs.advances rfl
  rcases (telemetry_matches_queue .standard id reaches answered).2 _ rfl with
    ⟨-, other⟩ | ⟨event, entry, describes, whole, -⟩
  · exact absurd rfl other
  · exact ⟨config, reaches, event, entry, describes, whole⟩

end Thread

end ServiceMessages.Notify
