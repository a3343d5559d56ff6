import ServiceMessages.Interaction.LocalView
import ServiceMessages.RemoteContent.Atomicity
import ServiceMessages.RemoteContent.Ownership

/-!
# The trail of updates

Every update that is answered 204 has left one event in the telemetry, and
nothing else has, however many requests are served at the same time.  A second
protocol, next to that of the life of a request, counts the events of one
request.
-/

namespace ServiceMessages.RemoteContent

open Interaction TaskEither Protocol

/-- How far a request has come: it has committed no update, it has committed
one, or it has tracked the one it committed. -/
inductive Progress where
  | waiting
  | committed (configuration : RetrievedRCConfiguration)
  | tracked (configuration : RetrievedRCConfiguration)

structure AuditPhase where
  request : Request
  progress : Progress

namespace AuditPhase

def initial (request : Request) : AuditPhase where
  request := request
  progress := .waiting

def Allows (phase : AuditPhase) : Command → Prop
  | .trackEvent event =>
      ∃ configuration, phase.progress = .committed configuration ∧
        event = updateEvent configuration
  | .upsert configuration =>
      phase.progress = .waiting ∧ ∃ newRCConfiguration configurationId caller,
        phase.request = .update newRCConfiguration configurationId caller ∧ caller.Authorized ∧
          configuration = makeNewRCConfigurationWithConfigurationId configurationId caller.userId
            newRCConfiguration
  | _ => ∀ configuration, phase.progress ≠ .tracked configuration

def advance (phase : AuditPhase) : Event Services → AuditPhase
  | ⟨.upsert _, .ok configuration⟩ => { phase with progress := .committed configuration }
  | ⟨.trackEvent _, _⟩ =>
      match phase.progress with
      | .committed configuration => { phase with progress := .tracked configuration }
      | _ => phase
  | _ => phase

theorem request_advance (phase : AuditPhase) (event : Event Services) :
    (phase.advance event).request = phase.request := by
  obtain ⟨command, reply⟩ := event
  unfold advance
  split <;> (try split) <;> rfl

end AuditPhase

def auditProtocol : Protocol Services Request AuditPhase where
  initial := AuditPhase.initial
  allows := AuditPhase.Allows
  advance := AuditPhase.advance
  request := AuditPhase.request
  request_initial := fun _ => rfl
  request_advance := AuditPhase.request_advance

@[simp]
theorem progress_initial (request : Request) :
    (auditProtocol.initial request).progress = .waiting := rfl

/-- An update ends tracked and answered 204, or without either. -/
def Audited : Request → AuditPhase → Response Body → Prop
  | .update .., phase, response =>
      (∃ configuration, phase.progress = .tracked configuration ∧ response = .successNoContent) ∨
        phase.progress = .waiting ∧ response.status ≠ 204
  | _, phase, _ => phase.progress = .waiting

variable {commons : Commons} {config : IConfig} {policy : Semantics Services World}

section Conformance

variable {permitted : Event Services → Prop}

theorem conforms_audit_setWithExpirationTask {phase : AuditPhase} {key value : String}
    {seconds : ℕ} {errorMsg : Option String}
    {post : AuditPhase → Except JsError Unit → Prop}
    (untracked : ∀ configuration, phase.progress ≠ .tracked configuration)
    (ends : ∀ outcome, post phase outcome) :
    auditProtocol.Conforms permitted post (setWithExpirationTask key value seconds errorMsg)
      phase := by
  rw [setWithExpirationTask_eq]
  refine ⟨untracked, fun reply _ => ?_⟩
  cases reply with
  | error error => exact ends _
  | ok client =>
      refine ⟨untracked, fun reply _ => ?_⟩
      cases reply with
      | error error => exact ends _
      | ok answer =>
          by_cases acknowledged : answer = some "OK"
          · simp only [acknowledged, if_true]
            exact ends _
          · simp only [acknowledged, if_false]
            exact ends _

theorem conforms_audit_handleUpsert {phase : AuditPhase}
    {newRCConfiguration : NewRCConfigurationPublic} {configurationId : Ulid} {caller : Caller}
    (here : phase.request = .update newRCConfiguration configurationId caller)
    (waiting : phase.progress = .waiting) (authorized : caller.Authorized) :
    auditProtocol.Conforms permitted
      (Audited (.update newRCConfiguration configurationId caller))
      (toUnion (handleUpsert commons config (makeNewRCConfigurationWithConfigurationId
        configurationId caller.userId newRCConfiguration))) phase := by
  have upserts : phase.Allows (.upsert (makeNewRCConfigurationWithConfigurationId
      configurationId caller.userId newRCConfiguration)) :=
    ⟨waiting, newRCConfiguration, configurationId, caller, here, authorized, rfl⟩
  rw [toUnion_handleUpsert, conforms_call]
  refine ⟨upserts, fun reply _ => ?_⟩
  cases reply with
  | error error => exact .inr ⟨waiting, by simp [Response.status]⟩
  | ok committed =>
      rw [conforms_bind]
      apply conforms_audit_setWithExpirationTask
      · intro configuration
        simp [auditProtocol, AuditPhase.advance]
      · intro outcome
        rw [conforms_call]
        refine ⟨⟨committed, rfl, rfl⟩, fun _ _ => ?_⟩
        exact .inl ⟨committed, by simp [auditProtocol, AuditPhase.advance], rfl⟩

theorem conforms_audit_update (newRCConfiguration : NewRCConfigurationPublic)
    (configurationId : Ulid) {caller : Caller} (authorized : caller.Authorized) :
    auditProtocol.Conforms permitted
      (Audited (.update newRCConfiguration configurationId caller))
      (updateRCConfigurationHandler commons config newRCConfiguration configurationId caller)
      (.initial (.update newRCConfiguration configurationId caller)) := by
  rw [updateRCConfigurationHandler_of_authorized commons config authorized, conforms_call]
  constructor
  · intro configuration tracked
    cases tracked
  · intro reply _
    cases reply with
    | error error => exact .inr ⟨rfl, by simp [Response.status]⟩
    | ok answer =>
        cases answer with
        | none => exact .inr ⟨rfl, by simp [Response.status]⟩
        | some configuration =>
            by_cases owner : configuration.userId = caller.userId
            · simp only [owner, if_true]
              exact conforms_audit_handleUpsert rfl rfl authorized
            · simp only [owner, if_false]
              exact .inr ⟨rfl, by simp [Response.status, responseErrorForbiddenNotAuthorized]⟩

def Quiet (phase : Phase) (auditPhase : AuditPhase) : Prop :=
  auditPhase.progress = .waiting ∧
    ∀ newRCConfiguration configurationId caller,
      phase.request ≠ .update newRCConfiguration configurationId caller

theorem Quiet.allows {phase : Phase} {auditPhase : AuditPhase} {command : Command}
    (quiet : Quiet phase auditPhase) (allowed : phase.Allows commons config command) :
    auditPhase.Allows command := by
  obtain ⟨waiting, notUpdate⟩ := quiet
  cases command with
  | upsert configuration =>
      cases requestEq : phase.request with
      | update => exact absurd requestEq (notUpdate _ _ _)
      | get | create | list => simp [Phase.Allows, requestEq] at allowed
  | trackEvent event =>
      cases requestEq : phase.request with
      | update => exact absurd requestEq (notUpdate _ _ _)
      | get | create | list => simp [Phase.Allows, requestEq] at allowed
  | _ =>
      intro configuration tracked
      rw [waiting] at tracked
      cases tracked

theorem Quiet.advance {phase : Phase} {auditPhase : AuditPhase} {command : Command}
    (reply : Services.Reply command) (quiet : Quiet phase auditPhase)
    (allowed : phase.Allows commons config command) :
    Quiet (phase.advance commons ⟨command, reply⟩) (auditPhase.advance ⟨command, reply⟩) := by
  refine ⟨?_, by simpa using quiet.2⟩
  have waiting := quiet.1
  cases command with
  | upsert configuration =>
      obtain ⟨-, _, _, _, _, _, _⟩ := quiet.allows allowed
      cases requestEq : phase.request with
      | update => exact absurd requestEq (quiet.2 _ _ _)
      | get | create | list => simp [Phase.Allows, requestEq] at allowed
  | trackEvent event =>
      obtain ⟨configuration, committed, -⟩ := quiet.allows allowed
      rw [waiting] at committed
      cases committed
  | _ => exact waiting

theorem conforms_audit_handler (truthful : ∀ event, permitted event → Truthful event)
    (request : Request) :
    auditProtocol.Conforms permitted (Audited request) (handler commons config request)
      (auditProtocol.initial request) := by
  rcases Classical.em (∃ newRCConfiguration configurationId caller,
      request = .update newRCConfiguration configurationId caller) with update | notUpdate
  · obtain ⟨newRCConfiguration, configurationId, caller, rfl⟩ := update
    rcases Decidable.em caller.Authorized with authorized | refused
    · exact conforms_audit_update newRCConfiguration configurationId authorized
    · rw [handler, updateRCConfigurationHandler_of_not_authorized commons config refused]
      exact .inr ⟨rfl, by simp [Response.status, responseErrorForbiddenNotAuthorized]⟩
  · have others : ∀ newRCConfiguration configurationId caller,
        request ≠ .update newRCConfiguration configurationId caller :=
      fun _ _ _ same => notUpdate ⟨_, _, _, same⟩
    have quiet : Quiet ((lifecycle commons config).initial request)
        (auditProtocol.initial request) := ⟨rfl, others⟩
    refine ((conforms_handler truthful request).transfer Quiet
      (fun _ _ _ quiet => quiet.allows) (fun _ _ _ reply quiet allowed _ =>
        quiet.advance reply allowed) quiet).mono ?_
    rintro phase response ⟨_, ⟨waiting, -⟩, -⟩
    cases request with
    | update => exact absurd rfl (others _ _ _)
    | get | create | list => exact waiting

end Conformance

theorem not_allows_of_tracked {phase : AuditPhase} {configuration : RetrievedRCConfiguration}
    (tracked : phase.progress = .tracked configuration) (command : Command) :
    ¬ phase.Allows command := by
  intro allowed
  cases command with
  | trackEvent event =>
      obtain ⟨_, committed, -⟩ := allowed
      rw [tracked] at committed
      cases committed
  | upsert =>
      obtain ⟨waiting, -⟩ := allowed
      rw [tracked] at waiting
      cases waiting
  | _ => exact allowed configuration tracked

/-- Only the command that tracks an event makes a request one that has tracked. -/
theorem tracked_advance_iff {phase : AuditPhase} {command : Command}
    {reply : Services.Reply command} {configuration : RetrievedRCConfiguration}
    (allowed : phase.Allows command) (ignored : tracked? ⟨command, reply⟩ = none) :
    (phase.advance ⟨command, reply⟩).progress = .tracked configuration ↔
      phase.progress = .tracked configuration := by
  cases command with
  | trackEvent => cases ignored
  | upsert =>
      obtain ⟨waiting, -⟩ := allowed
      cases reply <;> simp [AuditPhase.advance, waiting]
  | _ => rfl

/-- What a request has committed is in the store, and is what it was asked for. -/
def Backed (world : World) (phase : AuditPhase) : Prop :=
  ∀ configuration, phase.progress = .committed configuration ∨
    phase.progress = .tracked configuration →
      configuration ∈ world.store.commits ∧ ∃ newRCConfiguration configurationId caller,
        phase.request = .update newRCConfiguration configurationId caller ∧ caller.Authorized ∧
          configuration.toRCConfiguration = makeNewRCConfigurationWithConfigurationId
            configurationId caller.userId newRCConfiguration

theorem Backed.mono {world world' : World} {phase : AuditPhase} (backed : Backed world phase)
    (grows : ∀ configuration ∈ world.store.commits, configuration ∈ world'.store.commits) :
    Backed world' phase :=
  fun configuration reached => (backed configuration reached).imp_left (grows configuration)

theorem Backed.advanced {world world' : World} {phase : AuditPhase} {command : Command}
    {reply : Services.Reply command} (backed : Backed world phase)
    (allowed : phase.Allows command) (executed : exec world command reply world') :
    Backed world' (phase.advance ⟨command, reply⟩) := by
  have kept := backed.mono (commits_of_exec executed)
  cases command with
  | upsert configuration =>
      cases reply with
      | error error => exact kept
      | ok committed =>
          obtain ⟨built, rfl⟩ := executed
          obtain ⟨-, newRCConfiguration, configurationId, caller, here, authorized, same⟩ := allowed
          rintro other (new | impossible)
          · cases new
            exact ⟨List.mem_cons_self, _, _, _, here, authorized, built.trans same⟩
          · cases impossible
  | trackEvent event =>
      obtain ⟨configuration, committed, -⟩ := allowed
      have advanced : phase.advance ⟨.trackEvent event, reply⟩ =
          { phase with progress := .tracked configuration } := by
        simp [AuditPhase.advance, committed]
      rw [advanced]
      rintro other (impossible | same)
      · cases impossible
      · cases same
        exact kept configuration (.inl committed)
  | _ => exact kept

theorem committed_of_advance {world world' : World} {phase : AuditPhase} {command : Command}
    {reply : Services.Reply command} {configuration : RetrievedRCConfiguration}
    (executed : exec world command reply world')
    (reached : (phase.advance ⟨command, reply⟩).progress = .committed configuration ∨
      (phase.advance ⟨command, reply⟩).progress = .tracked configuration) :
    (phase.progress = .committed configuration ∨ phase.progress = .tracked configuration) ∨
      (⟨command, reply⟩ : Event Services) =
        ⟨.upsert configuration.toRCConfiguration, .ok configuration⟩ := by
  cases command with
  | upsert asked =>
      cases reply with
      | error error => exact .inl reached
      | ok committed =>
          obtain ⟨rfl, -⟩ := executed
          rcases reached with new | impossible
          · cases new
            exact .inr rfl
          · cases impossible
  | trackEvent event =>
      cases progress : phase.progress with
      | waiting => simp [AuditPhase.advance, progress] at reached
      | committed before | tracked before =>
          left
          simpa [AuditPhase.advance, progress] using reached
  | _ => exact .inl reached

section Runs

variable {Thread : Type} [DecidableEq Thread]
  {current : Config Services World Thread Request (Response Body)}

/-- The events tracked so far are those of the requests that have tracked. -/
structure Trail (trace : List (Label Services Thread Request)) : Prop where
  once : ((collect tracked? trace).map Prod.fst).Nodup
  tracked : ∀ thread event, (thread, event) ∈ collect tracked? trace ↔
    ∃ phase configuration, auditProtocol.phaseOf trace thread = some phase ∧
      phase.progress = .tracked configuration ∧ event = updateEvent configuration

theorem Trail.started {trace : List (Label Services Thread Request)} (trail : Trail trace)
    {thread : Thread} (fresh : auditProtocol.phaseOf trace thread = none) (request : Request) :
    Trail (.start thread request :: trace) where
  once := by simpa using trail.once
  tracked := by
    intro other event
    rw [collect_start, trail.tracked]
    by_cases same : other = thread
    · subst same
      simp [fresh]
    · rw [phaseOf_start_of_ne _ _ _ (Ne.symm same)]

theorem Trail.ignored {trace : List (Label Services Thread Request)} (trail : Trail trace)
    {thread : Thread} {phase : AuditPhase} {command : Command} {reply : Services.Reply command}
    (here : auditProtocol.phaseOf trace thread = some phase) (allowed : phase.Allows command)
    (ignored : tracked? ⟨command, reply⟩ = none) :
    Trail (.command thread ⟨command, reply⟩ :: trace) where
  once := by simpa [collect_command_of_none _ _ ignored] using trail.once
  tracked := by
    intro other event
    rw [collect_command_of_none _ _ ignored, trail.tracked]
    by_cases same : other = thread
    · subst same
      simp only [phaseOf_command_self, here, Option.map_some, Option.some.injEq,
        exists_eq_left', exists_and_left]
      simp only [auditProtocol, tracked_advance_iff allowed ignored]
    · rw [phaseOf_command_of_ne _ _ _ (Ne.symm same)]

theorem Trail.extended {trace : List (Label Services Thread Request)} (trail : Trail trace)
    {thread : Thread} {phase : AuditPhase} {event : TelemetryEvent} (reply : Unit)
    (here : auditProtocol.phaseOf trace thread = some phase)
    (allowed : phase.Allows (.trackEvent event)) :
    Trail (.command thread ⟨.trackEvent event, reply⟩ :: trace) := by
  obtain ⟨configuration, committed, rfl⟩ := allowed
  have untracked : ∀ other, (thread, other) ∉ collect tracked? trace := by
    intro other already
    obtain ⟨before, _, known, tracked, -⟩ := (trail.tracked thread other).mp already
    rw [here] at known
    cases known
    rw [committed] at tracked
    cases tracked
  have advanced : auditProtocol.advance phase ⟨.trackEvent (updateEvent configuration), reply⟩ =
      { phase with progress := .tracked configuration } := by
    simp [auditProtocol, AuditPhase.advance, committed]
  have matters : tracked? ⟨.trackEvent (updateEvent configuration), reply⟩ =
      some (updateEvent configuration) := rfl
  refine ⟨?_, ?_⟩
  · rw [collect_command_of_some _ _ matters, List.map_cons, List.nodup_cons]
    refine ⟨?_, trail.once⟩
    simpa using untracked
  · intro other event
    rw [collect_command_of_some _ _ matters, List.mem_cons, trail.tracked]
    by_cases same : other = thread
    · subst same
      simp [here, advanced, committed]
    · rw [phaseOf_command_of_ne _ _ _ (Ne.symm same)]
      simp [same]

theorem governsAudit_of_reaches {first : World}
    (reaches : (system commons config policy).Reaches (.initial first) current) :
    Relation.ReflTransGen (auditProtocol.Step (exec.restrict policy) (Drift commons))
        (first, []) (current.world, current.trace) ∧
      auditProtocol.Governs Truthful Audited current := by
  have initially : auditProtocol.Governs Truthful Audited
      (Config.initial first : Config Services World Thread Request (Response Body)) :=
    governs_initial Audited first
  refine initially.reaches ?_ (conforms_audit_handler fun _ => id) reaches
  intro world command reply world' executed
  exact truthful_of_exec executed.1

theorem trail_of_run {moment later : Moment Services World Request Thread}
    (run : Relation.ReflTransGen (auditProtocol.Step (exec.restrict policy) (Drift commons))
      moment later) (trail : Trail moment.2) : Trail later.2 := by
  refine Protocol.invariant (fun _ trace => Trail trace) ?_ ?_ ?_ run trail
  · intro world trace thread request trail fresh
    exact trail.started fresh request
  · intro world trace thread phase command reply world' trail here allowed _
    cases matters : tracked? ⟨command, reply⟩ with
    | none => exact trail.ignored here allowed matters
    | some event =>
        cases command with
        | trackEvent => exact trail.extended reply here allowed
        | _ => cases matters
  · intro world trace world' trail _
    exact ⟨by simpa using trail.once, by simpa using trail.tracked⟩

/-- What a request has committed is what its own upsert was answered. -/
def Attributed (trace : List (Label Services Thread Request)) : Prop :=
  ∀ thread phase configuration, auditProtocol.phaseOf trace thread = some phase →
    phase.progress = .committed configuration ∨ phase.progress = .tracked configuration →
    ⟨.upsert configuration.toRCConfiguration, .ok configuration⟩ ∈ eventsOf thread trace

theorem attributed_of_run {moment later : Moment Services World Request Thread}
    (run : Relation.ReflTransGen (auditProtocol.Step (exec.restrict policy) (Drift commons))
      moment later) (initially : Attributed moment.2) : Attributed later.2 := by
  refine Protocol.invariant (fun _ trace => Attributed trace) ?_ ?_ ?_ run initially
  · intro world trace started request attributed _ thread phase configuration here reached
    rw [eventsOf_start]
    rcases phaseOf_start_cases here with ⟨-, rfl⟩ | ⟨-, here⟩
    · rcases reached with impossible | impossible <;> cases impossible
    · exact attributed thread phase configuration here reached
  · intro world trace executing before command reply world' attributed _ _ executed thread phase
      configuration here reached
    rcases phaseOf_command_cases here with ⟨rfl, known, knownHere, rfl⟩ | ⟨other, here⟩
    · rw [eventsOf_command_self, List.mem_append, List.mem_singleton]
      rcases committed_of_advance executed.1 reached with earlier | now
      · exact .inl (attributed thread known configuration knownHere earlier)
      · exact .inr now.symm
    · rw [eventsOf_command_of_ne _ _ (Ne.symm other)]
      exact attributed thread phase configuration here reached
  · intro world trace world' attributed _ thread phase configuration here reached
    rw [eventsOf_drift]
    exact attributed thread phase configuration (by simpa using here) reached

theorem backed_of_run {moment later : Moment Services World Request Thread}
    (run : Relation.ReflTransGen (auditProtocol.Step (exec.restrict policy) (Drift commons))
      moment later)
    (initially : ∀ thread phase, auditProtocol.phaseOf moment.2 thread = some phase →
      Backed moment.1 phase) :
    ∀ thread phase, auditProtocol.phaseOf later.2 thread = some phase → Backed later.1 phase := by
  refine (modular_invariant (fun _ => True) Backed ?_ ?_ ?_ run ⟨trivial, initially⟩).2
  · rintro world request - configuration (impossible | impossible) <;> cases impossible
  · intro world phase command reply world' _ backed allowed executed
    exact ⟨trivial, backed.advanced allowed executed.1,
      fun other known => known.mono (commits_of_exec executed.1)⟩
  · intro world world' _ drifted
    refine ⟨trivial, fun other known => known.mono fun configuration membership => ?_⟩
    rwa [drifted.store_eq]

/-- In every interleaving and under any failures: no request leaves two events,
a request has left one exactly if it is an update that is answered 204, and
then the event names what its own upsert has put into the store. -/
theorem updates_are_audited_once (commons : Commons) (config : IConfig)
    (policy : Semantics Services World) {first : World}
    (reaches : (system commons config policy).Reaches (.initial first) current) :
    ((collect tracked? current.trace).map Prod.fst).Nodup ∧
    (∀ thread event, (thread, event) ∈ collect tracked? current.trace →
      ∃ newRCConfiguration configurationId caller,
        current.Answered thread (.update newRCConfiguration configurationId caller)
          .successNoContent ∧ caller.Authorized ∧
        ∃ configuration ∈ current.world.store.commits,
          configuration.toRCConfiguration = makeNewRCConfigurationWithConfigurationId
            configurationId caller.userId newRCConfiguration ∧
          ⟨.upsert configuration.toRCConfiguration, .ok configuration⟩ ∈
            eventsOf thread current.trace ∧
          event = updateEvent configuration) ∧
    ∀ thread newRCConfiguration configurationId caller response,
      current.Answered thread (.update newRCConfiguration configurationId caller) response →
      response.status = 204 → ∃ event, (thread, event) ∈ collect tracked? current.trace := by
  obtain ⟨run, governs⟩ := governsAudit_of_reaches reaches
  have trail : Trail current.trace :=
    trail_of_run run ⟨by simp, by simp⟩
  have backed := backed_of_run run (by simp)
  have attributed : Attributed current.trace := attributed_of_run run (by simp [Attributed])
  refine ⟨trail.once, ?_, ?_⟩
  · intro thread event tracked
    obtain ⟨phase, configuration, here, done, rfl⟩ := (trail.tracked thread event).mp tracked
    obtain ⟨membership, newRCConfiguration, configurationId, caller, asked, authorized, built⟩ :=
      backed thread phase here configuration (.inr done)
    refine ⟨newRCConfiguration, configurationId, caller, ?_, authorized, configuration, membership,
      built, attributed thread phase configuration here (.inr done), rfl⟩
    cases started : current.threads thread with
    | none =>
        rw [governs.phaseOf_eq_none started] at here
        cases here
    | some running =>
        obtain ⟨request, program⟩ := running
        obtain ⟨phase', hereToo, served, conforms⟩ := governs.conforms started
        rw [here] at hereToo
        cases hereToo
        obtain rfl : request = .update newRCConfiguration configurationId caller :=
          served.symm.trans asked
        cases program with
        | call command next => exact absurd conforms.1 (not_allows_of_tracked done command)
        | done response =>
            rcases conforms with ⟨_, -, rfl⟩ | ⟨waiting, -⟩
            · exact started
            · rw [done] at waiting
              cases waiting
  · intro thread newRCConfiguration configurationId caller response answered noContent
    obtain ⟨phase, here, -, ⟨configuration, tracked, -⟩ | ⟨-, failed⟩⟩ := governs.answered answered
    · exact ⟨_, (trail.tracked thread _).mpr ⟨phase, configuration, here, tracked, rfl⟩⟩
    · exact absurd noContent failed

end Runs

theorem updates_are_audited_once_sample :
    ∃ (current : Config Services World ℕ Request (Response Body)) (event : TelemetryEvent),
      (system Commons.standard aConfig reliable).Reaches (.initial aStoredWorld) current ∧
        (0, event) ∈ collect tracked? current.trace := by
  obtain ⟨events, runs⟩ := runs_sample_update permissive_reliable
  obtain ⟨current, reaches, -, answered, -⟩ :=
    (system Commons.standard aConfig reliable).reaches_of_start 0
      (.update anUpdatedPublicRemoteContentConfiguration aConfigurationId aCaller)
      (.initial aStoredWorld) runs.advances rfl
  obtain ⟨-, -, tracked⟩ := updates_are_audited_once Commons.standard aConfig reliable reaches
  obtain ⟨event, membership⟩ := tracked 0 _ _ _ _ answered rfl
  exact ⟨current, event, reaches, membership⟩

end ServiceMessages.RemoteContent
