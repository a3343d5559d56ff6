import ServiceMessages.RemoteContent.Lifecycle
import ServiceMessages.RemoteContent.Serialization

/-!
# Requests that are served

The runs of the endpoints in which every command does what it is asked for,
except possibly the write of the cache.
-/

namespace ServiceMessages.RemoteContent

open Interaction TaskEither

variable {commons : Commons} {config : IConfig} {policy : Semantics Services World}

/-- The policy excludes no reaction in which a command succeeds and no entry expires. -/
def Permissive (policy : Semantics Services World) : Prop :=
  ∀ world command reply world', Succeeds ⟨command, reply⟩ → policy world command reply world'

theorem permissive_reliable : Permissive reliable :=
  fun _ _ _ _ succeeds => succeeds

theorem permissive_storeAvailable : Permissive storeAvailable :=
  fun _ _ _ _ succeeds => .inl succeeds

section Commands

variable (permissive : Permissive policy) (world : World)

include permissive

theorem connects : exec.restrict policy world .getInstance (.ok ()) world :=
  ⟨rfl, permissive _ _ _ _ rfl⟩

theorem readsCached {key : String} {entry : Option String} (present : world.cache key = entry) :
    exec.restrict policy world (.get key) (.ok entry) world := by
  subst present
  refine ⟨.inl ⟨rfl, ?_⟩, permissive _ _ _ _ ⟨_, rfl⟩⟩
  rintro answer ⟨⟩
  rfl

theorem caches (key value : String) (seconds : ℕ) :
    exec.restrict policy world (.setex key seconds value) (.ok (some "OK"))
      (world.setCache key (some value)) :=
  ⟨.inl rfl, permissive _ _ _ _ rfl⟩

theorem readsStored {configurationId : Ulid} {answer : Option RetrievedRCConfiguration}
    (stored : world.store.findByConfigurationId configurationId = answer) :
    exec.restrict policy world (.findByConfigurationId configurationId) (.ok answer) world := by
  subst stored
  refine ⟨⟨rfl, ?_⟩, permissive _ _ _ _ ⟨_, rfl⟩⟩
  rintro answer ⟨⟩
  rfl

theorem answers_of_ne_create {command : Command}
    (notCreated : ∀ configuration, command ≠ .create configuration) :
    ∃ reply world', exec.restrict policy world command reply world' := by
  cases command with
  | create configuration => exact absurd rfl (notCreated configuration)
  | getInstance => exact ⟨_, _, connects permissive world⟩
  | get key => exact ⟨_, _, readsCached permissive world rfl⟩
  | setex key seconds value => exact ⟨_, _, caches permissive world key value seconds⟩
  | findByConfigurationId configurationId =>
      exact ⟨_, _, readsStored permissive world rfl⟩
  | findAllByConfigurationId configurationIds =>
      refine ⟨.ok (world.store.findAllByConfigurationId configurationIds), world, ⟨rfl, ?_⟩,
        permissive _ _ _ _ ⟨_, rfl⟩⟩
      rintro answer ⟨⟩
      exact ⟨Store.nodup_findAllByConfigurationId _ _, Store.mem_findAllByConfigurationId _ _⟩
  | upsert configuration =>
      exact ⟨.ok ⟨configuration, "", "", "", 0⟩, _, ⟨rfl, rfl⟩, permissive _ _ _ _ ⟨_, rfl⟩⟩
  | findAllByUserId userId =>
      refine ⟨.ok (world.userIndex userId), world, ⟨rfl, ?_⟩, permissive _ _ _ _ ⟨_, rfl⟩⟩
      rintro answer ⟨⟩
      rfl
  | generateConfigurationId => exact ⟨⟨""⟩, world, rfl, permissive _ _ _ _ trivial⟩
  | trackEvent event => exact ⟨(), world, rfl, permissive _ _ _ _ trivial⟩

end Commands

section Parts

variable {State : Type} {semantics : Semantics Services State} {world final : State}

theorem runs_setWithExpirationTask (connected : semantics world .getInstance (.ok ()) world)
    {key value : String} {seconds : ℕ} (errorMsg : Option String)
    {reply : Except JsError (Option String)}
    (cached : semantics world (.setex key seconds value) reply final) :
    ∃ outcome, Runs semantics world (setWithExpirationTask key value seconds errorMsg)
      [⟨.getInstance, .ok ()⟩, ⟨.setex key seconds value, reply⟩] outcome final := by
  rw [setWithExpirationTask_eq]
  cases reply with
  | error error => exact ⟨_, .call connected (.call cached .done)⟩
  | ok answer =>
      by_cases acknowledged : answer = some "OK"
      · refine ⟨.ok (), .call connected (.call cached ?_)⟩
        simp only [acknowledged, if_true]
        exact .done
      · refine ⟨.error (settingError errorMsg), .call connected (.call cached ?_)⟩
        simp only [acknowledged, if_false]
        exact .done

variable {configurationId : Ulid} {caller : Caller}

theorem runs_get_of_hit (connected : semantics world .getInstance (.ok ()) world)
    {redisValue : String} (hit : semantics world (.get (redisKey configurationId))
      (.ok (some redisValue)) world)
    {configuration : RetrievedRCConfiguration}
    (decodes : cachedConfiguration commons redisValue = some configuration)
    (mayGet : MayGet config caller) :
    Runs semantics world (handler commons config (.get configurationId caller))
      [⟨.getInstance, .ok ()⟩, ⟨.get (redisKey configurationId), .ok (some redisValue)⟩]
      (lookupResponse commons config configurationId caller (some configuration)) world := by
  have lookup : Runs semantics world
      (getOrCacheMaybeRCConfigurationById commons config configurationId)
      [⟨.getInstance, .ok ()⟩, ⟨.get (redisKey configurationId), .ok (some redisValue)⟩]
      (.ok (some configuration)) world := by
    rw [getOrCacheMaybeRCConfigurationById_eq]
    refine .call connected (.call hit ?_)
    simp only [usableReply, decodes]
    exact .done
  rw [handler, getRCConfigurationHandler_of_mayGet commons config mayGet]
  exact lookup.bind .done

/-- A `get` that finds no entry has the store still to read, and then the entry to write. -/
theorem advances_get_of_missed (connected : semantics world .getInstance (.ok ()) world)
    (missed : semantics world (.get (redisKey configurationId)) (.ok none) world)
    (mayGet : MayGet config caller) :
    ∃ rest, Advances semantics world (handler commons config (.get configurationId caller))
        [⟨.getInstance, .ok ()⟩, ⟨.get (redisKey configurationId), .ok none⟩] rest world ∧
      ∀ {later middle configuration},
        semantics later (.findByConfigurationId configurationId) (.ok (some configuration))
          middle →
        ∃ waiting, Advances semantics later rest
            [⟨.findByConfigurationId configurationId, .ok (some configuration)⟩] waiting middle ∧
          ∀ {last final reply},
            semantics last .getInstance (.ok ()) last →
            semantics last (.setex (redisKey configurationId) config.rcConfigurationCacheTtl
              (commons.stringify configuration)) reply final →
            Runs semantics last waiting
              [⟨.getInstance, .ok ()⟩,
                ⟨.setex (redisKey configurationId) config.rcConfigurationCacheTtl
                  (commons.stringify configuration), reply⟩]
              (lookupResponse commons config configurationId caller (some configuration))
              final := by
  have lookup : Advances semantics world
      (getOrCacheMaybeRCConfigurationById commons config configurationId)
      [⟨.getInstance, .ok ()⟩, ⟨.get (redisKey configurationId), .ok none⟩]
      (findAndCacheMaybeRCConfigurationById commons config configurationId) world := by
    rw [getOrCacheMaybeRCConfigurationById_eq]
    exact .call connected (.call missed .refl)
  rw [handler, getRCConfigurationHandler_of_mayGet commons config mayGet]
  refine ⟨_, lookup.bind _, fun {later middle configuration} read => ?_⟩
  have reads : Advances semantics later
      (findAndCacheMaybeRCConfigurationById commons config configurationId)
      [⟨.findByConfigurationId configurationId, .ok (some configuration)⟩]
      ((setWithExpirationTask (redisKey configurationId) (commons.stringify configuration)
        config.rcConfigurationCacheTtl none).bind fun _ => of (some configuration)) middle := by
    rw [findAndCacheMaybeRCConfigurationById_eq]
    exact .call read .refl
  refine ⟨_, reads.bind _, fun {last final reply} connected cached => ?_⟩
  obtain ⟨outcome, filled⟩ := runs_setWithExpirationTask connected none cached
  have found : Runs semantics last
      ((setWithExpirationTask (redisKey configurationId) (commons.stringify configuration)
        config.rcConfigurationCacheTtl none).bind fun _ =>
          (of (some configuration) : Task JsError (Option RetrievedRCConfiguration))) _
      (.ok (some configuration)) _ := filled.bind .done
  exact found.bind .done

theorem runs_get_of_missed {configuration : RetrievedRCConfiguration}
    {reply : Except JsError (Option String)}
    (connected : semantics world .getInstance (.ok ()) world)
    (missed : semantics world (.get (redisKey configurationId)) (.ok none) world)
    (read : semantics world (.findByConfigurationId configurationId) (.ok (some configuration))
      world)
    (cached : semantics world (.setex (redisKey configurationId) config.rcConfigurationCacheTtl
      (commons.stringify configuration)) reply final)
    (mayGet : MayGet config caller) :
    Runs semantics world (handler commons config (.get configurationId caller))
      [⟨.getInstance, .ok ()⟩, ⟨.get (redisKey configurationId), .ok none⟩,
        ⟨.findByConfigurationId configurationId, .ok (some configuration)⟩,
        ⟨.getInstance, .ok ()⟩,
        ⟨.setex (redisKey configurationId) config.rcConfigurationCacheTtl
          (commons.stringify configuration), reply⟩]
      (lookupResponse commons config configurationId caller (some configuration)) final := by
  obtain ⟨rest, misses, continues⟩ := advances_get_of_missed connected missed mayGet
  obtain ⟨waiting, reads, finishes⟩ := continues read
  exact (misses.trans reads).runs (finishes connected cached)

end Parts

theorem runs_update (permissive : Permissive policy) {world final : World}
    {configurationId : Ulid} {caller : Caller} (authorized : caller.Authorized)
    {configuration : RetrievedRCConfiguration}
    (stored : world.store.findByConfigurationId configurationId = some configuration)
    (owner : configuration.userId = caller.userId)
    (newRCConfiguration : NewRCConfigurationPublic) {committed : RetrievedRCConfiguration}
    (built : committed.toRCConfiguration = makeNewRCConfigurationWithConfigurationId
      configurationId caller.userId newRCConfiguration)
    {reply : Except JsError (Option String)}
    (cached : exec.restrict policy (world.commit committed)
      (.setex (redisKey configurationId) config.rcConfigurationCacheTtl
        (commons.stringify committed)) reply final) :
    Runs (exec.restrict policy) world
      (handler commons config (.update newRCConfiguration configurationId caller))
      [⟨.findByConfigurationId configurationId, .ok (some configuration)⟩,
        ⟨.upsert committed.toRCConfiguration, .ok committed⟩,
        ⟨.getInstance, .ok ()⟩,
        ⟨.setex (redisKey configurationId) config.rcConfigurationCacheTtl
          (commons.stringify committed), reply⟩,
        ⟨.trackEvent (updateEvent committed), ()⟩] .successNoContent final := by
  have named := configurationId_of_built built
  obtain ⟨outcome, filled⟩ := runs_setWithExpirationTask (connects permissive _) none cached
  rw [handler, updateRCConfigurationHandler_of_authorized commons config authorized]
  have written : exec.restrict policy world (.upsert committed.toRCConfiguration) (.ok committed)
      (world.commit committed) := ⟨⟨rfl, rfl⟩, permissive _ _ _ _ ⟨_, rfl⟩⟩
  apply Runs.call (readsStored permissive world stored)
  simp only [owner, if_true]
  rw [toUnion_handleUpsert, ← built]
  apply Runs.call written
  simp only [named]
  exact filled.bind (.call ⟨rfl, permissive _ _ _ _ trivial⟩ .done)

theorem runs_create {world : World} {caller : Caller} (authorized : caller.Authorized)
    {ulid : Ulid} (absent : world.store.findByConfigurationId ulid = none)
    (newRCConfiguration : NewRCConfigurationPublic) {committed : RetrievedRCConfiguration}
    (built : committed.toRCConfiguration = makeNewRCConfigurationWithConfigurationId
      ulid caller.userId newRCConfiguration)
    (generates : policy world .generateConfigurationId ulid world)
    (creates : policy world (.create committed.toRCConfiguration) (.ok committed)
      (world.commit committed)) :
    Runs (exec.restrict policy) world
      (handler commons config (.create newRCConfiguration caller))
      [⟨.generateConfigurationId, ulid⟩, ⟨.create committed.toRCConfiguration, .ok committed⟩]
      (createdResponse commons committed) (world.commit committed) := by
  rw [handler, createRCConfigurationHandler_of_authorized commons authorized]
  have generated : exec.restrict policy world .generateConfigurationId ulid world :=
    ⟨rfl, generates⟩
  apply Runs.call generated
  rw [← built]
  refine .call ⟨⟨?_, rfl, rfl⟩, creates⟩ .done
  rw [built]
  exact absent

/-- A request other than a creation runs to its end. -/
theorem request_answered (permissive : Permissive policy) (world : World) {request : Request}
    (notCreation : ∀ newRCConfiguration caller, request ≠ .create newRCConfiguration caller) :
    ∃ events response final, Runs (exec.restrict policy) world
      (handler commons config request) events response final := by
  have conforms : (lifecycle commons config).Conforms Truthful _ _ _ :=
    conforms_handler (fun _ => id) request
  refine conforms.exists_run ?_ ((lifecycle commons config).request_initial request) world
  intro world phase command here allowed
  have notCreated : ∀ configuration, command ≠ .create configuration := by
    rintro configuration rfl
    cases request with
    | create newRCConfiguration caller => exact notCreation _ _ rfl
    | _ =>
        rw [lifecycle_request] at here
        simp [lifecycle, Phase.Allows, here] at allowed
  obtain ⟨reply, world', executed⟩ := answers_of_ne_create permissive world notCreated
  exact ⟨reply, world', executed, truthful_of_exec executed.1⟩

def onlyStore (world : World) : (command : Command) → Services.Reply command
  | .findByConfigurationId configurationId =>
      .ok (world.store.findByConfigurationId configurationId)
  | .getInstance | .get _ | .setex .. => .error (.new "Connection is closed.")
  | .findAllByConfigurationId _ | .create _ | .upsert _ | .findAllByUserId _ => .error ⟨"", "", ""⟩
  | .generateConfigurationId => aConfigurationId
  | .trackEvent _ => ()

theorem exec_onlyStore (world : World) (command : Command) :
    exec world command (onlyStore world command) world := by
  cases command with
  | findByConfigurationId configurationId =>
      refine ⟨rfl, ?_⟩
      rintro answer ⟨⟩
      rfl
  | findAllByConfigurationId | findAllByUserId => exact ⟨rfl, nofun⟩
  | getInstance | generateConfigurationId | trackEvent => rfl
  | get key => exact .inl ⟨rfl, nofun⟩
  | setex key seconds value => exact .inr ⟨rfl, by simp [onlyStore]⟩
  | create | upsert => exact .inl rfl

theorem runs_sample_create (permissive : Permissive policy) :
    Runs (exec.restrict policy) World.empty
      (handler Commons.standard aConfig (.create aPublicRemoteContentConfiguration aCaller))
      [⟨.generateConfigurationId, aConfigurationId⟩,
        ⟨.create aRetrievedRCConfiguration.toRCConfiguration, .ok aRetrievedRCConfiguration⟩]
      (createdResponse Commons.standard aRetrievedRCConfiguration) aStoredWorld :=
  runs_create aCaller_authorized rfl _ rfl (permissive _ _ _ _ trivial)
    (permissive _ _ _ _ ⟨_, rfl⟩)

theorem runs_sample_update (permissive : Permissive policy) :
    ∃ events, Runs (exec.restrict policy) aStoredWorld
      (handler Commons.standard aConfig
        (.update anUpdatedPublicRemoteContentConfiguration aConfigurationId aCaller))
      events .successNoContent anUpdatedWorld :=
  ⟨_, runs_update permissive aCaller_authorized aStoredWorld_stored rfl _ rfl
    (caches permissive _ _ _ _)⟩

theorem runs_sample_get (permissive : Permissive policy) {world : World}
    {configuration : RetrievedRCConfiguration} (owner : configuration.userId = aCaller.userId)
    (present : world.cache (redisKey aConfigurationId) =
      some (Commons.standard.stringify configuration)) :
    ∃ events, Runs (exec.restrict policy) world
      (handler Commons.standard aConfig (.get aConfigurationId aCaller)) events
      (.successJson (.configuration (configurationResponse Commons.standard configuration)))
      world := by
  have answers : Runs (exec.restrict policy) world
      (handler Commons.standard aConfig (.get aConfigurationId aCaller)) _ _ world :=
    runs_get_of_hit (connects permissive world) (readsCached permissive world present)
      (cachedConfiguration_stringify _ configuration) (.inr aCaller_authorized)
  simp only [lookupResponse, owner, or_true, if_true] at answers
  exact ⟨_, answers⟩

end ServiceMessages.RemoteContent
