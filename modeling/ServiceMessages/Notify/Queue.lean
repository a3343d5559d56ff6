import ServiceMessages.Interaction.Reaction
import ServiceMessages.Notify.QueueText
import ServiceMessages.Notify.Stages

/-!
# No notification is lost or sent twice

Any number of requests are served at the same time, and share the queue.  The
stores may change between any two commands, so nothing is assumed of what they
answer.
-/

namespace ServiceMessages.Notify

open Interaction TaskEither

variable (toHash : String → String)

/-- Lookups may be answered in any way at any time.  A message whose sending is
acknowledged has been put into the queue, and one whose sending failed may have
been or not.  The queue is the list of all messages ever put into it, newest
first. -/
def queueExec : Semantics Services (List String)
  | queue, .sendMessage messageText, reply, queue' =>
      queue' = messageText :: queue ∨ queue' = queue ∧ reply ≠ .ok ()
  | queue, _, _, queue' => queue' = queue

/-- A request, and which of its parallel lookups completes first. -/
structure Arrival where
  request : NotifyRequest
  contentFirst : Bool

def notifySystem (auth : AzureApiAuth) :
    System Services (List String) Arrival NotifyResponse where
  exec := queueExec
  drift _ _ := False
  handler arrival := notify auth toHash arrival.contentFirst arrival.request

def sent? : Event Services → Option (String × Except JsError Unit)
  | ⟨.sendMessage messageText, reply⟩ => some (messageText, reply)
  | _ => none

/-- The stores have nothing, and neither the sessions nor the queue can be reached. -/
def unanswered : ∀ service, Services.Reply service
  | .findLastVersionByModelId _ => .ok none
  | .getSession _ => .error (.new "")
  | .findMessageForRecipient .. => .ok none
  | .getContentFromBlob _ => .ok none
  | .findOneByServiceId _ => .ok none
  | .sendMessage _ => .error (.new "")
  | .logError _ | .logWarn _ | .trackEvent .. => ()

section Thread

variable {Thread : Type} [DecidableEq Thread] {auth : AzureApiAuth} {toHash : String → String}
  {config : Config Services (List String) Thread Arrival NotifyResponse} {thread : Thread}
  {arrival : Arrival} {program : Program Services NotifyResponse}

abbrev answerOf (thread : Thread) (trace : List (Label Services Thread Arrival)) :
    ∀ service, Services.Reply service :=
  answerFrom unanswered (eventsOf thread trace)

theorem commands_of_follows (follows : Follows (notifySystem toHash auth) (fun _ => True) config)
    (running : config.threads thread = some (arrival, program)) :
    (notify auth toHash arrival.contentFirst arrival.request).commands
        (answerOf thread config.trace) =
      (eventsOf thread config.trace).map Event.command ++
        program.commands (answerOf thread config.trace) ∧
    (notify auth toHash arrival.contentFirst arrival.request).result
        (answerOf thread config.trace) =
      program.result (answerOf thread config.trace) := by
  have advances := follows.advances running
  exact advances.answered ((within_notify toHash auth arrival.request).answerFrom_eq advances)

/-- An answer that is not the default is one that was received. -/
theorem answerOf_eq_iff (follows : Follows (notifySystem toHash auth) (fun _ => True) config)
    (running : config.threads thread = some (arrival, program)) {command : Service}
    {reply : command.Reply} (received : unanswered command ≠ reply) :
    answerOf thread config.trace command = reply ↔
      (⟨command, reply⟩ : Event Services) ∈ eventsOf thread config.trace := by
  constructor
  · rintro rfl
    rcases answerFrom_cases unanswered (eventsOf thread config.trace) command with
      default | replied
    · exact absurd default.symm received
    · exact replied
  · exact (within_notify toHash auth arrival.request).answerFrom_eq (follows.advances running)
      ⟨command, reply⟩

theorem sent_eq_announcement {answer : ∀ service, Services.Reply service} {contentFirst : Bool}
    {request : NotifyRequest} {messageText : String}
    (sent : .sendMessage messageText ∈ (notify auth toHash contentFirst request).commands answer) :
    ∃ userProfile messageWithContent service,
      Found (readersAnswer toHash contentFirst answer) request.notificationInfo userProfile
        messageWithContent service ∧
      messageText = announcement toHash request.notificationInfo
        (queued (readersAnswer toHash contentFirst answer) request.notificationInfo userProfile
          messageWithContent service) := by
  rw [← mem_filter_sends] at sent
  by_cases passes : Passes auth request
  · obtain ⟨-, issued⟩ := notify_of_passes toHash contentFirst answer passes
    rw [issued] at sent
    by_cases found : ∃ userProfile messageWithContent service,
        Found (readersAnswer toHash contentFirst answer) request.notificationInfo userProfile
          messageWithContent service
    · obtain ⟨userProfile, messageWithContent, service, foundAll⟩ := found
      refine ⟨userProfile, messageWithContent, service, foundAll, ?_⟩
      rw [foundAll.filter_announces] at sent
      cases told : verbose (readersAnswer toHash contentFirst answer) userProfile
          request.notificationInfo.fiscal_code service <;>
        simpa [told, printerCommand, message?, announcement, eq_comm] using sent
    · rw [filter_announces_of_not_found _ _ _ (by simpa using found)] at sent
      simp at sent
  · obtain ⟨-, silent⟩ := notify_of_not_passes toHash contentFirst answer passes
    simp [silent] at sent

theorem status_of_sent {answer : ∀ service, Services.Reply service} {contentFirst : Bool}
    {request : NotifyRequest} {messageText : String}
    (sent : .sendMessage messageText ∈ (notify auth toHash contentFirst request).commands answer) :
    ((notify auth toHash contentFirst request).result answer).status = 204 ∨
      ((notify auth toHash contentFirst request).result answer).status = 500 := by
  obtain ⟨userProfile, messageWithContent, service, found, -⟩ := sent_eq_announcement sent
  have passes : Passes auth request := by
    by_contra refused
    obtain ⟨-, silent⟩ := notify_of_not_passes toHash contentFirst answer refused
    simp [silent] at sent
  rw [(notify_of_passes toHash contentFirst answer passes).1, found.result]
  generalize readersAnswer toHash contentFirst answer (.sendNotification _ _ _ _) = delivered
  cases delivered with
  | ok => exact .inl rfl
  | error => exact .inr rfl

theorem map_sent? (events : List (Event Services)) :
    (events.filterMap sent?).map (fun sending => Service.sendMessage sending.1) =
      (events.map Event.command).filter Service.sends := by
  induction events with
  | nil => rfl
  | cons event rest inductionHypothesis =>
      obtain ⟨command, reply⟩ := event
      cases command with
      | sendMessage messageText =>
          simpa [sent?, Service.sends, List.filter_cons] using inductionHypothesis
      | _ => exact inductionHypothesis

theorem length_sent_le_one
    (follows : Follows (notifySystem toHash auth) (fun _ => True) config) (thread : Thread) :
    ((eventsOf thread config.trace).filterMap sent?).length ≤ 1 := by
  cases running : config.threads thread with
  | none => simp [follows.eventsOf_eq_nil running]
  | some started =>
      obtain ⟨arrival, program⟩ := started
      obtain ⟨commands, -⟩ := commands_of_follows follows running
      have once : (((notify auth toHash arrival.contentFirst arrival.request).commands
          (answerOf thread config.trace)).filter Service.sends).length ≤ 1 := by
        rcases delivery auth toHash arrival.contentFirst (answerOf thread config.trace)
            arrival.request with ⟨-, _, sent, -⟩ | ⟨-, silent, -⟩
        · simp [sent]
        · simp [silent]
      rw [commands, List.filter_append, List.length_append, ← map_sent?, List.length_map] at once
      omega

/-- A queued message announces what its request has found.  Whoever reads it
finds the hash of the fiscal code and the identifier that the request came with. -/
structure Justified (auth : AzureApiAuth) (toHash : String → String)
    (config : Config Services (List String) Thread Arrival NotifyResponse) (thread : Thread)
    (arrival : Arrival) (messageText : String) : Prop where
  deliverable : Deliverable auth (answerOf thread config.trace) arrival.request
  announces : ∃ userProfile messageWithContent service,
    Found (readersAnswer toHash arrival.contentFirst (answerOf thread config.trace))
      arrival.request.notificationInfo userProfile messageWithContent service ∧
    messageText = announcement toHash arrival.request.notificationInfo
      (queued (readersAnswer toHash arrival.contentFirst (answerOf thread config.trace))
        arrival.request.notificationInfo userProfile messageWithContent service)
  readsBack : ∃ notifyMessage, decodeObject messageText = some notifyMessage ∧
    notifyMessage.installationId = toHash arrival.request.notificationInfo.fiscal_code.text ∧
    notifyMessage.kind = "Notify" ∧
    notifyMessage.payload.message_id = arrival.request.notificationInfo.message_id

theorem sent_of_mem (follows : Follows (notifySystem toHash auth) (fun _ => True) config)
    (running : config.threads thread = some (arrival, program)) {messageText : String}
    {reply : Except JsError Unit}
    (sent : (messageText, reply) ∈ (eventsOf thread config.trace).filterMap sent?) :
    .sendMessage messageText ∈ (notify auth toHash arrival.contentFirst arrival.request).commands
      (answerOf thread config.trace) := by
  obtain ⟨commands, -⟩ := commands_of_follows follows running
  rw [commands]
  apply List.mem_append_left
  rw [← mem_filter_sends, ← map_sent?]
  exact List.mem_map.mpr ⟨_, sent, rfl⟩

theorem justified_of_mem (follows : Follows (notifySystem toHash auth) (fun _ => True) config)
    (running : config.threads thread = some (arrival, program)) {messageText : String}
    {reply : Except JsError Unit}
    (sent : (messageText, reply) ∈ (eventsOf thread config.trace).filterMap sent?) :
    Justified auth toHash config thread arrival messageText where
  deliverable := sends_iff_deliverable.mp ⟨messageText, sent_of_mem follows running sent⟩
  announces := sent_eq_announcement (sent_of_mem follows running sent)
  readsBack := by
    obtain ⟨_, _, _, -, rfl⟩ := sent_eq_announcement (sent_of_mem follows running sent)
    exact ⟨_, decodeObject_base64EncodeObject _, rfl, rfl, rfl⟩

theorem acknowledged_of_status
    (follows : Follows (notifySystem toHash auth) (fun _ => True) config)
    {response : NotifyResponse} (answered : config.Answered thread arrival response)
    (noContent : response.status = 204) :
    ∃ messageText, (messageText, .ok ()) ∈ (eventsOf thread config.trace).filterMap sent? := by
  obtain ⟨commands, result⟩ := commands_of_follows follows answered
  obtain ⟨messageText, accepted⟩ : ∃ messageText,
      answerOf thread config.trace (.sendMessage messageText) = .ok () := by
    rcases delivery auth toHash arrival.contentFirst (answerOf thread config.trace)
        arrival.request with ⟨-, messageText, -, acknowledged⟩ | ⟨-, -, other⟩
    · rw [result] at acknowledged
      exact ⟨messageText, acknowledged.mp noContent⟩
    · rw [result] at other
      exact absurd noContent other
  have received : unanswered (.sendMessage messageText) ≠ .ok () := nofun
  have replied := (answerOf_eq_iff follows answered received).mp accepted
  exact ⟨messageText, List.mem_filterMap.mpr ⟨_, replied, rfl⟩⟩

/-- The queue holds, for some of the sendings, what they sent, and for all that
were acknowledged. -/
structure Holds (deliveries : List (Thread × String))
    (config : Config Services (List String) Thread Arrival NotifyResponse) : Prop where
  queue : config.world = deliveries.map Prod.snd
  sublist : deliveries.Sublist
    ((collect sent? config.trace).map fun sending => (sending.1, sending.2.1))
  acknowledged : ∀ thread messageText,
    (thread, messageText, .ok ()) ∈ collect sent? config.trace → (thread, messageText) ∈ deliveries

theorem queue_eq_of_not_sent {command : Service} {reply : command.Reply}
    {queue queue' : List String}
    (executed : queueExec queue command reply queue') (ignored : sent? ⟨command, reply⟩ = none) :
    queue' = queue := by
  cases command with
  | sendMessage => cases ignored
  | _ => exact executed

theorem Holds.step {later : Config Services (List String) Thread Arrival NotifyResponse}
    {deliveries : List (Thread × String)} (holds : Holds deliveries config)
    (step : (notifySystem toHash auth).Step config later) :
    ∃ deliveries', Holds deliveries' later := by
  obtain ⟨queue, sublist, acknowledged⟩ := holds
  cases step with
  | start started arrival fresh =>
      exact ⟨deliveries, queue, by simpa using sublist, by simpa using acknowledged⟩
  | drift world drifted => exact drifted.elim
  | command executing arrival command next reply queue' running executed =>
      cases matters : sent? ⟨command, reply⟩ with
      | none =>
          have same := queue_eq_of_not_sent executed matters
          refine ⟨deliveries, same.trans queue, ?_, ?_⟩ <;>
            simpa only [collect_command_of_none _ _ matters]
      | some sending =>
          obtain ⟨messageText, outcome⟩ := sending
          have trace := collect_command_of_some sent? config.trace matters executing
          cases command with
          | sendMessage text =>
              cases matters
              rcases executed with added | ⟨unchanged, failed⟩
              · refine ⟨(executing, messageText) :: deliveries, ?_, ?_, ?_⟩
                · simp [added, queue]
                · simpa only [trace, List.map_cons] using sublist.cons_cons _
                · intro thread text membership
                  rw [trace, List.mem_cons] at membership
                  rcases membership with same | before
                  · cases same
                    exact List.mem_cons_self
                  · exact List.mem_cons_of_mem _ (acknowledged thread text before)
              · refine ⟨deliveries, unchanged.trans queue, ?_, ?_⟩
                · simpa only [trace, List.map_cons] using sublist.cons _
                · intro thread text membership
                  rw [trace, List.mem_cons] at membership
                  rcases membership with same | before
                  · cases same
                    exact absurd rfl failed
                  · exact acknowledged thread text before
          | _ => cases matters

theorem exists_holds
    (reaches : (notifySystem toHash auth).Reaches (.initial []) config) :
    ∃ deliveries : List (Thread × String), Holds deliveries config := by
  induction reaches with
  | refl => exact ⟨[], rfl, .slnil, by simp [Config.initial]⟩
  | tail _ step inductionHypothesis =>
      obtain ⟨deliveries, holds⟩ := inductionHypothesis
      exact holds.step step

theorem Holds.sent {deliveries : List (Thread × String)} (holds : Holds deliveries config)
    {messageText : String} (delivered : (thread, messageText) ∈ deliveries) :
    ∃ reply, (messageText, reply) ∈ (eventsOf thread config.trace).filterMap sent? := by
  obtain ⟨⟨sender, text, reply⟩, membership, same⟩ :=
    List.mem_map.mp (holds.sublist.subset delivered)
  cases same
  exact ⟨reply, mem_collect_iff.mp membership⟩

/-- Whatever the stores answer while requests are served side by side, each
request puts one message at most into the queue.  The message announces what
that request found, to an authorized caller.  Whoever is answered 204 has a
message in the queue, and a message in the queue is answered by nothing but 204
or 500. -/
theorem notifications_are_queued_once (auth : AzureApiAuth) (toHash : String → String)
    (reaches : (notifySystem toHash auth).Reaches (.initial []) config) :
    ∃ deliveries : List (Thread × String),
      config.world = deliveries.map Prod.snd ∧
      (deliveries.map Prod.fst).Nodup ∧
      (∀ thread messageText, (thread, messageText) ∈ deliveries →
        ∃ arrival program, config.threads thread = some (arrival, program) ∧
          Justified auth toHash config thread arrival messageText ∧
          ∀ response, program = .done response →
            response.status = 204 ∨ response.status = 500) ∧
      ∀ thread arrival response, config.Answered thread arrival response →
        response.status = 204 → ∃ messageText, (thread, messageText) ∈ deliveries := by
  have follows : Follows (notifySystem toHash auth) (fun _ => True) config :=
    (follows_initial []).reaches (fun _ _ _ _ _ => trivial) reaches
  obtain ⟨deliveries, holds⟩ := exists_holds reaches
  refine ⟨deliveries, holds.queue, ?_, ?_, ?_⟩
  · have unique := nodup_collect (length_sent_le_one follows)
    refine (holds.sublist.map Prod.fst).nodup ?_
    simpa [Function.comp_def] using unique
  · intro thread messageText delivered
    obtain ⟨reply, sent⟩ := holds.sent delivered
    cases running : config.threads thread with
    | none => simp [follows.eventsOf_eq_nil running] at sent
    | some started =>
        obtain ⟨arrival, program⟩ := started
        refine ⟨arrival, program, rfl, justified_of_mem follows running sent, ?_⟩
        rintro response rfl
        have result := (commands_of_follows follows running).2
        have status := status_of_sent (sent_of_mem follows running sent)
        rwa [result] at status
  · intro thread arrival response answered noContent
    obtain ⟨messageText, sent⟩ := acknowledged_of_status follows answered noContent
    exact ⟨messageText, holds.acknowledged thread messageText (mem_collect_iff.mpr sent)⟩

end Thread

def queueReaction : Reaction Services (List String) := fun _ queue command =>
  (someServices command,
    match command with
    | .sendMessage messageText => messageText :: queue
    | _ => queue)

theorem executes_queueReaction (issued : List Service) (queue : List String) (command : Service) :
    queueExec queue command (queueReaction issued queue command).1
      (queueReaction issued queue command).2 := by
  cases command with
  | sendMessage => exact .inl rfl
  | _ => rfl

def aReminder : Arrival where
  request :=
    { xUserGroups := some "ApiMessageRead,ApiReminderNotify"
      notificationInfo := aNotificationInfo }
  contentFirst := true

theorem notifications_are_queued_once_sample :
    ∃ config : Config Services (List String) ℕ Arrival NotifyResponse,
      (notifySystem id .standard).Reaches (.initial []) config ∧
      ∃ deliveries : List (ℕ × String), config.world = deliveries.map Prod.snd ∧
        (deliveries.map Prod.fst).Nodup ∧ ∃ messageText, (0, messageText) ∈ deliveries := by
  obtain ⟨events, runs⟩ := Program.runs_serve executes_queueReaction
    ((notifySystem id .standard).handler aReminder) [] []
  obtain ⟨config, reaches, -, answered, -⟩ :=
    (notifySystem id .standard).reaches_of_start 0 aReminder (.initial []) runs.advances rfl
  obtain ⟨deliveries, queue, unique, -, delivered⟩ :=
    notifications_are_queued_once .standard id reaches
  exact ⟨config, reaches, deliveries, queue, unique, delivered 0 aReminder _ answered (by rfl)⟩

end ServiceMessages.Notify
