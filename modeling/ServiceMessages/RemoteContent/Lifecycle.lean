import ServiceMessages.Interaction.Protocol
import ServiceMessages.RemoteContent.ListRCConfiguration
import ServiceMessages.RemoteContent.UpdateRCConfiguration

/-!
# The life of a request

The four endpoints as one system of requests over one world, and the protocol
all of them keep to.  A phase remembers what a request has learned from the
services: the identifier generated for it, the document it goes on with, and
the document it is about to cache.
-/

namespace ServiceMessages.RemoteContent

open Interaction TaskEither Protocol

inductive Request where
  | get (configurationId : Ulid) (caller : Caller)
  | update (newRCConfiguration : NewRCConfigurationPublic) (configurationId : Ulid)
      (caller : Caller)
  | create (newRCConfiguration : NewRCConfigurationPublic) (caller : Caller)
  | list (caller : Caller)
deriving DecidableEq

namespace Request

def caller : Request → Caller
  | .get _ caller => caller
  | .update _ _ caller => caller
  | .create _ caller => caller
  | .list caller => caller

def target : Request → Option Ulid
  | .get configurationId _ => some configurationId
  | .update _ configurationId _ => some configurationId
  | .create .. => none
  | .list _ => none

end Request

section System

variable (commons : Commons) (config : IConfig)

def handler : Request → Program Services (Response Body)
  | .get configurationId caller =>
      getRCConfigurationHandler commons config configurationId caller
  | .update newRCConfiguration configurationId caller =>
      updateRCConfigurationHandler commons config newRCConfiguration configurationId caller
  | .create newRCConfiguration caller =>
      createRCConfigurationHandler commons newRCConfiguration caller
  | .list caller => listRCConfigurationHandler commons caller

/-- The request passes the check of the subscription and the groups, or does not
have to. -/
def Request.Passes : Request → Prop
  | .get _ caller => MayGet config caller
  | .update _ _ caller => caller.Authorized
  | .create _ caller => caller.Authorized
  | .list caller => caller.Authorized

theorem handler_of_not_passes {request : Request} (refused : ¬ request.Passes config) :
    handler commons config request = .done responseErrorForbiddenNotAuthorized := by
  cases request with
  | get configurationId caller =>
      exact getRCConfigurationHandler_of_not_mayGet commons config refused configurationId
  | update newRCConfiguration configurationId caller =>
      exact updateRCConfigurationHandler_of_not_authorized commons config refused _ _
  | create newRCConfiguration caller =>
      exact createRCConfigurationHandler_of_not_authorized commons refused _
  | list caller => exact listRCConfigurationHandler_of_not_authorized commons refused

variable {commons config} in
theorem passes_of_runs {semantics : Semantics Services World} {world final : World}
    {request : Request} {response : Response Body} {events : List (Event Services)}
    (runs : Runs semantics world (handler commons config request) events response final)
    (granted : response ≠ responseErrorForbiddenNotAuthorized) : request.Passes config := by
  by_contra refused
  rw [handler_of_not_passes commons config refused] at runs
  obtain ⟨-, same, -⟩ := runs_done_iff.mp runs
  exact granted same

/-- The endpoints over services that keep to a policy. -/
def system (policy : Semantics Services World) :
    System Services World Request (Response Body) where
  exec := exec.restrict policy
  drift := Drift commons
  handler := handler commons config

end System

/-- What a request knows: the identifier generated for it, what it found out
about the stored configuration (the outer option says whether it did), and the
document it is about to cache. -/
structure Phase where
  request : Request
  generated : Option Ulid
  lookup : Option (Option RetrievedRCConfiguration)
  pending : Option RetrievedRCConfiguration

namespace Phase

variable (commons : Commons) (config : IConfig)

def initial (request : Request) : Phase where
  request := request
  generated := none
  lookup := none
  pending := none

/-- The commands of the cache that fill the entry of the pending document. -/
def MayCache (phase : Phase) (key : String) (expirationInSeconds : ℕ) (value : String) : Prop :=
  ∃ configuration, phase.pending = some configuration ∧
    key = redisKey configuration.configurationId ∧
    expirationInSeconds = config.rcConfigurationCacheTtl ∧
    value = commons.stringify configuration

def Allows (phase : Phase) (command : Command) : Prop :=
  match phase.request, command with
  | .get .., .getInstance => True
  | .get configurationId _, .get key => key = redisKey configurationId
  | .get configurationId _, .findByConfigurationId requested =>
      requested = configurationId ∧ phase.pending = none
  | .get .., .setex key seconds value => phase.MayCache commons config key seconds value
  | .update .., .getInstance => True
  | .update _ configurationId _, .findByConfigurationId requested =>
      requested = configurationId ∧ phase.pending = none
  | .update newRCConfiguration configurationId caller, .upsert configuration =>
      phase.pending = none ∧ caller.Authorized ∧
        (∃ owned, phase.lookup = some (some owned) ∧ owned.configurationId = configurationId ∧
          owned.userId = caller.userId) ∧
        configuration = makeNewRCConfigurationWithConfigurationId configurationId caller.userId
          newRCConfiguration
  | .update .., .setex key seconds value => phase.MayCache commons config key seconds value
  | .update .., .trackEvent event =>
      ∃ configuration, phase.lookup = some (some configuration) ∧
        event = updateEvent configuration
  | .create .., .generateConfigurationId => True
  | .create newRCConfiguration caller, .create configuration =>
      ∃ ulid, phase.generated = some ulid ∧
        configuration = makeNewRCConfigurationWithConfigurationId ulid caller.userId
          newRCConfiguration
  | .list caller, .findAllByUserId userId => userId = caller.userId
  | .list _, .findAllByConfigurationId _ => True
  | _, _ => False

def advance (phase : Phase) : Event Services → Phase
  | ⟨.get _, reply⟩ =>
      match usableReply commons reply with
      | some configuration => { phase with lookup := some (some configuration) }
      | none => phase
  | ⟨.findByConfigurationId _, .ok answer⟩ =>
      match phase.request with
      | .get .. => { phase with lookup := some answer, pending := answer }
      | _ => { phase with lookup := some answer }
  | ⟨.upsert _, .ok configuration⟩ =>
      { phase with lookup := some (some configuration), pending := some configuration }
  | ⟨.create _, .ok configuration⟩ => { phase with lookup := some (some configuration) }
  | ⟨.generateConfigurationId, ulid⟩ => { phase with generated := some ulid }
  | ⟨.setex .., _⟩ => { phase with pending := none }
  | _ => phase

@[simp]
theorem request_advance (phase : Phase) (event : Event Services) :
    (phase.advance commons event).request = phase.request := by
  obtain ⟨command, reply⟩ := event
  unfold advance
  split <;> (try split) <;> rfl

end Phase

/-- The protocol every endpoint keeps to. -/
def lifecycle (commons : Commons) (config : IConfig) : Protocol Services Request Phase where
  initial := Phase.initial
  allows := Phase.Allows commons config
  advance := Phase.advance commons
  request := Phase.request
  request_initial := fun _ => rfl
  request_advance := Phase.request_advance commons

section Lifecycle

variable (commons : Commons) (config : IConfig) (phase : Phase)

theorem lifecycle_advance (event : Event Services) :
    (lifecycle commons config).advance phase event = phase.advance commons event := rfl

theorem lifecycle_request : (lifecycle commons config).request phase = phase.request := rfl

end Lifecycle

/-- The store answers a lookup with a document of that identifier and a write
with the document written. -/
def Truthful : Event Services → Prop
  | ⟨.findByConfigurationId configurationId, .ok (some configuration)⟩ =>
      configuration.configurationId = configurationId
  | ⟨.upsert configuration, .ok committed⟩ => committed.toRCConfiguration = configuration
  | ⟨.create configuration, .ok committed⟩ => committed.toRCConfiguration = configuration
  | _ => True

theorem truthful_of_exec {world world' : World} {command : Command}
    {reply : Services.Reply command} (executed : exec world command reply world') :
    Truthful ⟨command, reply⟩ := by
  cases command with
  | findByConfigurationId configurationId =>
      cases reply with
      | error error => trivial
      | ok answer =>
          cases answer with
          | none => trivial
          | some configuration =>
              have found := executed.2 _ rfl
              exact Store.configurationId_of_findByConfigurationId found.symm
  | upsert configuration =>
      cases reply with
      | error error => trivial
      | ok committed => exact executed.1
  | create configuration =>
      cases reply with
      | error error => trivial
      | ok committed => exact executed.2.1
  | _ => trivial

def CacheSucceeds : Event Services → Prop
  | ⟨.getInstance, reply⟩ => ∃ client, reply = .ok client
  | ⟨.setex .., reply⟩ => reply = .ok (some "OK")
  | _ => True

theorem cacheSucceeds_of_succeeds {event : Event Services} (succeeds : Succeeds event) :
    CacheSucceeds event := by
  obtain ⟨command, reply⟩ := event
  cases command with
  | getInstance => exact ⟨(), succeeds⟩
  | setex => exact succeeds
  | _ => trivial

section Conformance

variable {commons : Commons} {config : IConfig} {permitted : Event Services → Prop}

/-- What the result of a request says about what the request knew. -/
def Explains (commons : Commons) (config : IConfig) (request : Request) (phase : Phase)
    (result : Response Body) : Prop :=
  match request, result with
  | .get _ caller, .successJson body =>
      ∃ configuration, phase.lookup = some (some configuration) ∧
        (config.internalUserId.val = caller.userId ∨ configuration.userId = caller.userId) ∧
        body = .configuration (configurationResponse commons configuration)
  | .get .., .errorNotFound .. => phase.lookup = some none
  | .create .., .successRedirectToResource resource .. =>
      ∃ configuration, phase.lookup = some (some configuration) ∧
        resource =
          .publicConfiguration (commons.retrievedRCConfigurationToPublic configuration)
  | _, _ => True

/-- How a request ends: its result is explained by what it knew, and where the
cache never fails nothing is left to be cached. -/
def Ends (commons : Commons) (config : IConfig) (permitted : Event Services → Prop)
    (request : Request) (phase : Phase) (result : Response Body) : Prop :=
  Explains commons config request phase result ∧
    ((∀ event, permitted event → CacheSucceeds event) → phase.pending = none)

theorem conforms_setWithExpirationTask {post : Phase → Except JsError Unit → Prop}
    {phase : Phase} {key value : String} {seconds : ℕ} {errorMsg : Option String}
    (connect : phase.Allows commons config .getInstance)
    (store : phase.Allows commons config (.setex key seconds value))
    (refused : ∀ error, permitted ⟨.getInstance, .error error⟩ → post phase (.error error))
    (issued : ∀ outcome, post { phase with pending := none } outcome) :
    (lifecycle commons config).Conforms permitted post
      (setWithExpirationTask key value seconds errorMsg) phase := by
  rw [setWithExpirationTask_eq]
  refine ⟨connect, fun reply allowed => ?_⟩
  cases reply with
  | error error => exact refused error allowed
  | ok client =>
      refine ⟨store, fun reply _ => ?_⟩
      cases reply with
      | error error => exact issued _
      | ok answer =>
          by_cases acknowledged : answer = some "OK"
          · simp only [acknowledged, if_true]
            exact issued _
          · simp only [acknowledged, if_false]
            exact issued _

theorem not_cacheSucceeds_of_refused
    (error : JsError) (allowed : permitted ⟨.getInstance, .error error⟩) :
    ¬ ∀ event, permitted event → CacheSucceeds event := by
  intro succeeds
  obtain ⟨_, impossible⟩ := succeeds _ allowed
  cases impossible

/-- What a `get` knows once its configuration has been looked up. -/
def LookedUp (permitted : Event Services → Prop) (phase : Phase)
    (outcome : Except JsError (Option RetrievedRCConfiguration)) : Prop :=
  (∀ answer, outcome = .ok answer → phase.lookup = some answer) ∧
    ((∀ event, permitted event → CacheSucceeds event) → phase.pending = none)

theorem conforms_findAndCacheMaybeRCConfigurationById
    (truthful : ∀ event, permitted event → Truthful event)
    {configurationId : Ulid} {caller : Caller} {phase : Phase}
    (here : phase.request = .get configurationId caller) (idle : phase.pending = none) :
    (lifecycle commons config).Conforms permitted (LookedUp permitted)
      (findAndCacheMaybeRCConfigurationById commons config configurationId) phase := by
  rw [findAndCacheMaybeRCConfigurationById_eq]
  refine ⟨by simp [lifecycle, Phase.Allows, here, idle], fun reply allowed => ?_⟩
  cases reply with
  | error error => simp [lifecycle, Phase.advance, LookedUp, idle]
  | ok answer =>
      cases answer with
      | none => simp [lifecycle, Phase.advance, LookedUp, here]
      | some configuration =>
          have named : configuration.configurationId = configurationId := truthful _ allowed
          have learned : (lifecycle commons config).advance phase
              ⟨.findByConfigurationId configurationId, .ok (some configuration)⟩ =
              { phase with
                lookup := some (some configuration)
                pending := some configuration } := by
            simp [lifecycle, Phase.advance, here]
          rw [learned, conforms_bind]
          apply conforms_setWithExpirationTask
          · simp [Phase.Allows, here]
          · simp [Phase.Allows, Phase.MayCache, here, named]
          · intro error refused
            simp [LookedUp, not_cacheSucceeds_of_refused error refused]
          · simp [LookedUp]

theorem conforms_getOrCacheMaybeRCConfigurationById
    (truthful : ∀ event, permitted event → Truthful event)
    {configurationId : Ulid} {caller : Caller} :
    (lifecycle commons config).Conforms permitted (LookedUp permitted)
      (getOrCacheMaybeRCConfigurationById commons config configurationId)
      (.initial (.get configurationId caller)) := by
  have slow : ∀ phase : Phase, phase.request = .get configurationId caller →
      phase.pending = none → (lifecycle commons config).Conforms permitted (LookedUp permitted)
        (findAndCacheMaybeRCConfigurationById commons config configurationId) phase :=
    fun phase here idle => conforms_findAndCacheMaybeRCConfigurationById truthful here idle
  rw [getOrCacheMaybeRCConfigurationById_eq]
  refine ⟨by simp [lifecycle, Phase.Allows, Phase.initial], fun reply _ => ?_⟩
  cases reply with
  | error error => exact slow _ rfl rfl
  | ok client =>
      refine ⟨by simp [lifecycle, Phase.Allows, Phase.advance, Phase.initial],
        fun reply _ => ?_⟩
      cases usable : usableReply commons reply with
      | some configuration =>
          simp [lifecycle, Phase.advance, Phase.initial, usable, LookedUp]
      | none =>
          simp only [usable]
          refine slow _ ?_ ?_ <;> simp [lifecycle, Phase.advance, Phase.initial, usable]

theorem conforms_get (truthful : ∀ event, permitted event → Truthful event)
    (configurationId : Ulid) {caller : Caller} (mayGet : MayGet config caller) :
    (lifecycle commons config).Conforms permitted
      (Ends commons config permitted (.get configurationId caller))
      (getRCConfigurationHandler commons config configurationId caller)
      (.initial (.get configurationId caller)) := by
  rw [getRCConfigurationHandler_of_mayGet commons config mayGet, conforms_fold]
  refine (conforms_getOrCacheMaybeRCConfigurationById truthful).mono
    fun phase outcome known => ⟨?_, ?_⟩
  · intro answer found
    have lookup := known.1 answer found
    refine ⟨?_, known.2⟩
    cases answer with
    | none => exact lookup
    | some configuration =>
        by_cases allowed : config.internalUserId.val = caller.userId ∨
            configuration.userId = caller.userId
        · simp only [lookupResponse, allowed, if_true]
          exact ⟨configuration, lookup, allowed, rfl⟩
        · simp only [lookupResponse, allowed, if_false]
          trivial
  · intro error _
    exact ⟨trivial, known.2⟩

theorem conforms_update (truthful : ∀ event, permitted event → Truthful event)
    (newRCConfiguration : NewRCConfigurationPublic) (configurationId : Ulid) {caller : Caller}
    (authorized : caller.Authorized) :
    (lifecycle commons config).Conforms permitted
      (Ends commons config permitted (.update newRCConfiguration configurationId caller))
      (updateRCConfigurationHandler commons config newRCConfiguration configurationId caller)
      (.initial (.update newRCConfiguration configurationId caller)) := by
  rw [updateRCConfigurationHandler_of_authorized commons config authorized]
  refine ⟨⟨rfl, rfl⟩, fun reply allowed => ?_⟩
  cases reply with
  | error error => exact ⟨trivial, fun _ => rfl⟩
  | ok answer =>
      cases answer with
      | none => exact ⟨trivial, fun _ => rfl⟩
      | some configuration =>
          have named : configuration.configurationId = configurationId := truthful _ allowed
          by_cases owner : configuration.userId = caller.userId
          · simp only [owner, if_true]
            rw [toUnion_handleUpsert]
            refine ⟨⟨rfl, authorized, ⟨configuration, rfl, named, owner⟩, rfl⟩,
              fun reply allowed => ?_⟩
            cases reply with
            | error error => exact ⟨trivial, fun _ => rfl⟩
            | ok committed =>
                rw [conforms_bind]
                apply conforms_setWithExpirationTask
                · trivial
                · exact ⟨committed, rfl, rfl, rfl, rfl⟩
                · intro error refused
                  refine ⟨⟨committed, rfl, rfl⟩, fun _ _ => ⟨trivial, fun succeeds => ?_⟩⟩
                  exact absurd succeeds (not_cacheSucceeds_of_refused error refused)
                · intro outcome
                  exact ⟨⟨committed, rfl, rfl⟩, fun _ _ => ⟨trivial, fun _ => rfl⟩⟩
          · simp only [owner, if_false]
            exact ⟨trivial, fun _ => rfl⟩

theorem conforms_create
    (newRCConfiguration : NewRCConfigurationPublic) {caller : Caller}
    (authorized : caller.Authorized) :
    (lifecycle commons config).Conforms permitted
      (Ends commons config permitted (.create newRCConfiguration caller))
      (createRCConfigurationHandler commons newRCConfiguration caller)
      (.initial (.create newRCConfiguration caller)) := by
  rw [createRCConfigurationHandler_of_authorized commons authorized]
  refine ⟨trivial, fun ulid _ => ⟨⟨ulid, rfl, rfl⟩, fun reply _ => ?_⟩⟩
  cases reply with
  | error error => exact ⟨trivial, fun _ => rfl⟩
  | ok configuration => exact ⟨⟨configuration, rfl, rfl⟩, fun _ => rfl⟩

theorem conforms_list {caller : Caller} (authorized : caller.Authorized) :
    (lifecycle commons config).Conforms permitted
      (Ends commons config permitted (.list caller))
      (listRCConfigurationHandler commons caller) (.initial (.list caller)) := by
  rw [listRCConfigurationHandler_of_authorized commons authorized]
  refine ⟨rfl, fun reply _ => ?_⟩
  cases reply with
  | error error => exact ⟨trivial, fun _ => rfl⟩
  | ok configList =>
      refine ⟨trivial, fun reply _ => ?_⟩
      cases reply <;> exact ⟨trivial, fun _ => rfl⟩

/-- Every endpoint keeps to the protocol. -/
theorem conforms_handler (truthful : ∀ event, permitted event → Truthful event)
    (request : Request) :
    (lifecycle commons config).Conforms permitted (Ends commons config permitted request)
      (handler commons config request) ((lifecycle commons config).initial request) := by
  by_cases passes : request.Passes config
  · cases request with
    | get configurationId caller => exact conforms_get truthful configurationId passes
    | update newRCConfiguration configurationId caller =>
        exact conforms_update truthful newRCConfiguration configurationId passes
    | create newRCConfiguration caller => exact conforms_create newRCConfiguration passes
    | list caller => exact conforms_list passes
  · rw [handler_of_not_passes commons config passes]
    cases request <;> exact ⟨trivial, fun _ => rfl⟩

/-- Every run of the endpoints is a run of the protocol. -/
theorem run_of_reaches {Thread : Type} [DecidableEq Thread] {policy : Semantics Services World}
    (truthful : ∀ event, permitted event → Truthful event)
    (permits : ∀ world command reply world', exec world command reply world' →
      policy world command reply world' → permitted ⟨command, reply⟩)
    {current later : Config Services World Thread Request (Response Body)}
    (governs : (lifecycle commons config).Governs permitted (Ends commons config permitted)
      current)
    (reaches : (system commons config policy).Reaches current later) :
    Relation.ReflTransGen ((lifecycle commons config).Step (exec.restrict policy) (Drift commons))
        (current.world, current.trace) (later.world, later.trace) ∧
      (lifecycle commons config).Governs permitted (Ends commons config permitted) later := by
  refine governs.reaches ?_ (conforms_handler truthful) reaches
  intro world command reply world' executed
  exact permits _ _ _ _ executed.1 executed.2

end Conformance

end ServiceMessages.RemoteContent
