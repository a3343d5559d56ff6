import ServiceMessages.RemoteContent.ListRCConfiguration
import ServiceMessages.RemoteContent.UpdateRCConfiguration

/-!
# Outcomes of single requests

What each handler, run alone, may answer and leave behind, whatever its
services answer within a policy.  Every alternative names the command that
decides it.
-/

namespace ServiceMessages.RemoteContent

open Interaction TaskEither

variable {commons : Commons} {config : IConfig} {policy : Semantics Services World}

def Acknowledged (key : String) (events : List (Event Services)) : Prop :=
  ∃ seconds value, (⟨.setex key seconds value, .ok (some "OK")⟩ : Event Services) ∈ events

/-- The policy lets a write of the cache fail in this world. -/
def Refused (policy : Semantics Services World) (world : World) : Prop :=
  (∃ error, policy world .getInstance (.error error) world) ∨
    ∃ key seconds value reply, reply ≠ .ok (some "OK") ∧
      policy world (.setex key seconds value) reply world

theorem not_refused_reliable (world : World) : ¬ Refused reliable world := by
  rintro (⟨error, impossible⟩ | ⟨key, seconds, value, reply, failed, succeeds⟩)
  · cases impossible
  · exact failed succeeds

theorem ensures_setWithExpirationTask (world : World) (key value : String) (seconds : ℕ)
    (errorMsg : Option String) :
    Ensures (exec.restrict policy) world (setWithExpirationTask key value seconds errorMsg)
      fun events _ final =>
        (final = world ∧ Refused policy final ∨ final = world.setCache key (some value)) ∧
          (Acknowledged key events → final = world.setCache key (some value)) := by
  rw [setWithExpirationTask_eq, ensures_call]
  rintro client world' ⟨rfl, permitted⟩
  cases client with
  | error error =>
      refine ensures_left.mpr ⟨.inl ⟨rfl, .inl ⟨error, permitted⟩⟩, ?_⟩
      simp [Acknowledged]
  | ok client =>
      rw [ensures_call]
      rintro reply final ⟨executed, permitted⟩
      have effect : final = world'.setCache key (some value) ∨
          final = world' ∧ reply ≠ .ok (some "OK") := executed
      have holds : (final = world' ∧ Refused policy final ∨
            final = world'.setCache key (some value)) ∧
          (reply = .ok (some "OK") → final = world'.setCache key (some value)) := by
        rcases effect with written | ⟨rfl, refused⟩
        · exact ⟨.inr written, fun _ => written⟩
        · exact ⟨.inl ⟨rfl, .inr ⟨key, seconds, value, reply, refused, permitted⟩⟩,
            fun acknowledged => absurd acknowledged refused⟩
      cases reply with
      | error error => simpa [Acknowledged] using holds
      | ok answer =>
          by_cases acknowledged : answer = some "OK"
          · simpa [Acknowledged, acknowledged] using holds
          · simpa [Acknowledged, acknowledged, Ne.symm acknowledged] using holds.1

/-- The entry was left alone, unless it was found to be expired. -/
def LeftAlone (policy : Semantics Services World) (world : World) (key : String)
    (final : World) : Prop :=
  final = world ∨ final = world.setCache key none ∧ policy world (.get key) (.ok none) final

theorem LeftAlone.store_eq {world final : World} {key : String}
    (leftAlone : LeftAlone policy world key final) : final.store = world.store := by
  rcases leftAlone with rfl | ⟨rfl, _⟩ <;> rfl

/-- How the lookup of a configuration may end, with the world it leaves. -/
inductive LookupOutcome (commons : Commons) (policy : Semantics Services World) (world : World)
    (configurationId : Ulid) :
    List (Event Services) → Except JsError (Option RetrievedRCConfiguration) → World → Prop where
  | hit {events redisValue configuration} :
      world.cache (redisKey configurationId) = some redisValue →
      cachedConfiguration commons redisValue = some configuration →
      (∀ reply, (⟨.findByConfigurationId configurationId, reply⟩ : Event Services) ∉ events) →
      LookupOutcome commons policy world configurationId events (.ok (some configuration)) world
  | failed {events error e final} :
      LeftAlone policy world (redisKey configurationId) final →
      policy final (.findByConfigurationId configurationId) (.error e) final →
      (⟨.findByConfigurationId configurationId, .error e⟩ : Event Services) ∈ events →
      LookupOutcome commons policy world configurationId events (.error error) final
  | absent {events final} :
      LeftAlone policy world (redisKey configurationId) final →
      world.store.findByConfigurationId configurationId = none →
      LookupOutcome commons policy world configurationId events (.ok none) final
  | found {events configuration final} :
      world.store.findByConfigurationId configurationId = some configuration →
      LeftAlone policy world (redisKey configurationId) final ∨
        final = world.setCache (redisKey configurationId)
          (some (commons.stringify configuration)) →
      LookupOutcome commons policy world configurationId events (.ok (some configuration)) final

theorem ensures_findAndCacheMaybeRCConfigurationById {world middle : World}
    {configurationId : Ulid} (leftAlone : LeftAlone policy world (redisKey configurationId) middle)
    (earlier : List (Event Services)) :
    Ensures (exec.restrict policy) middle
      (findAndCacheMaybeRCConfigurationById commons config configurationId)
      fun events => LookupOutcome commons policy world configurationId (earlier ++ events) := by
  rw [findAndCacheMaybeRCConfigurationById_eq, ensures_call]
  rintro reply middle ⟨⟨rfl, answers⟩, permitted⟩
  cases reply with
  | error e =>
      exact ensures_left.mpr
        (.failed leftAlone permitted (List.mem_append_right _ List.mem_cons_self))
  | ok answer =>
      have found := answers answer rfl
      rw [leftAlone.store_eq] at found
      cases answer with
      | none => exact ensures_of.mpr (.absent leftAlone found.symm)
      | some configuration =>
          rw [ensures_bind]
          refine (ensures_setWithExpirationTask _ _ _ _ _).mono fun events outcome final holds => ?_
          refine ensures_of.mpr (.found found.symm ?_)
          rcases holds.1 with ⟨rfl, _⟩ | rfl
          · exact .inl leftAlone
          · rcases leftAlone with rfl | ⟨rfl, _⟩
            · exact .inr rfl
            · exact .inr (World.setCache_setCache ..)

theorem ensures_getOrCacheMaybeRCConfigurationById (world : World) (configurationId : Ulid) :
    Ensures (exec.restrict policy) world
      (getOrCacheMaybeRCConfigurationById commons config configurationId)
      (LookupOutcome commons policy world configurationId) := by
  rw [getOrCacheMaybeRCConfigurationById_eq, ensures_call]
  rintro client world' ⟨rfl, _⟩
  cases client with
  | error error => exact ensures_findAndCacheMaybeRCConfigurationById (.inl rfl) [_]
  | ok client =>
      rw [ensures_call]
      rintro reply middle ⟨executed, permitted⟩
      cases usable : usableReply commons reply with
      | some configuration =>
          obtain ⟨redisValue, rfl, decodes⟩ := eq_of_usableReply usable
          obtain ⟨rfl, answers⟩ := executed.resolve_right (by simp)
          exact ensures_of.mpr (.hit (answers _ rfl).symm decodes (by simp))
      | none =>
          refine ensures_findAndCacheMaybeRCConfigurationById ?_ [_, _]
          rcases executed with ⟨rfl, _⟩ | ⟨rfl, rfl⟩
          · exact .inl rfl
          · exact .inr ⟨rfl, permitted⟩

theorem ensures_getRCConfigurationHandler (world : World) (configurationId : Ulid)
    {caller : Caller} (mayGet : MayGet config caller) :
    Ensures (exec.restrict policy) world
      (getRCConfigurationHandler commons config configurationId caller)
      fun events response final => ∃ outcome,
        LookupOutcome commons policy world configurationId events outcome final ∧
          response = match outcome with
            | .ok maybeRCConfiguration =>
                lookupResponse commons config configurationId caller maybeRCConfiguration
            | .error error => handleErrorResponse error := by
  rw [getRCConfigurationHandler_of_mayGet commons config mayGet, ensures_fold]
  refine (ensures_getOrCacheMaybeRCConfigurationById _ _).mono
    fun events outcome final lookup => ⟨?_, ?_⟩
  · rintro maybeRCConfiguration rfl
    simpa using ⟨_, lookup, rfl⟩
  · rintro error rfl
    simpa using ⟨_, lookup, rfl⟩

theorem found_of_successJson {configurationId : Ulid} {caller : Caller} {body : Body}
    {outcome : Except JsError (Option RetrievedRCConfiguration)}
    (response : Response.successJson body = match outcome with
      | .ok maybeRCConfiguration =>
          lookupResponse commons config configurationId caller maybeRCConfiguration
      | .error error => handleErrorResponse error) :
    ∃ configuration, outcome = .ok (some configuration) ∧
      body = .configuration (configurationResponse commons configuration) := by
  cases outcome with
  | error error => cases response
  | ok answer =>
      cases answer with
      | none => cases response
      | some configuration =>
          by_cases allowed : config.internalUserId.val = caller.userId ∨
              configuration.userId = caller.userId
          · simp only [lookupResponse, allowed, if_true, Response.successJson.injEq] at response
            exact ⟨configuration, rfl, response⟩
          · simp only [lookupResponse, allowed, if_false] at response
            cases response

inductive UpdateOutcome (commons : Commons) (policy : Semantics Services World) (world : World)
    (newRCConfiguration : NewRCConfigurationPublic) (configurationId : Ulid) (caller : Caller) :
    List (Event Services) → Response Body → World → Prop where
  | lookupFailed {events e detail} :
      policy world (.findByConfigurationId configurationId) (.error e) world →
      UpdateOutcome commons policy world newRCConfiguration configurationId caller
        events (.errorInternal detail) world
  | missing {events title detail} :
      world.store.findByConfigurationId configurationId = none →
      UpdateOutcome commons policy world newRCConfiguration configurationId caller
        events (.errorNotFound title detail) world
  | forbidden {events configuration} :
      world.store.findByConfigurationId configurationId = some configuration →
      configuration.userId ≠ caller.userId →
      UpdateOutcome commons policy world newRCConfiguration configurationId caller
        events responseErrorForbiddenNotAuthorized world
  | upsertFailed {events configuration e detail final} :
      world.store.findByConfigurationId configurationId = some configuration →
      configuration.userId = caller.userId →
      policy world (.upsert (makeNewRCConfigurationWithConfigurationId configurationId
        caller.userId newRCConfiguration)) (.error e) final →
      (final = world ∨ ∃ committed : RetrievedRCConfiguration,
        committed.toRCConfiguration = makeNewRCConfigurationWithConfigurationId configurationId
          caller.userId newRCConfiguration ∧ final = world.commit committed) →
      UpdateOutcome commons policy world newRCConfiguration configurationId caller
        events (.errorInternal detail) final
  | updated {events} {configuration committed : RetrievedRCConfiguration} {final} :
      world.store.findByConfigurationId configurationId = some configuration →
      configuration.userId = caller.userId →
      committed.toRCConfiguration = makeNewRCConfigurationWithConfigurationId configurationId
        caller.userId newRCConfiguration →
      final = world.commit committed ∧ Refused policy final ∨
        final = (world.commit committed).setCache (redisKey configurationId)
          (some (commons.stringify committed)) →
      (Acknowledged (redisKey configurationId) events →
        final = (world.commit committed).setCache (redisKey configurationId)
          (some (commons.stringify committed))) →
      UpdateOutcome commons policy world newRCConfiguration configurationId caller
        events .successNoContent final

theorem ensures_updateRCConfigurationHandler (world : World)
    (newRCConfiguration : NewRCConfigurationPublic) (configurationId : Ulid) {caller : Caller}
    (authorized : caller.Authorized) :
    Ensures (exec.restrict policy) world
      (updateRCConfigurationHandler commons config newRCConfiguration configurationId caller)
      (UpdateOutcome commons policy world newRCConfiguration configurationId caller) := by
  rw [updateRCConfigurationHandler_of_authorized commons config authorized, ensures_call]
  rintro reply world' ⟨⟨rfl, answers⟩, permitted⟩
  cases reply with
  | error e => exact ensures_done.mpr (.lookupFailed permitted)
  | ok answer =>
      have found := answers answer rfl
      cases answer with
      | none => exact ensures_done.mpr (.missing found.symm)
      | some configuration =>
          by_cases owner : configuration.userId = caller.userId
          · simp only [owner, if_true]
            rw [toUnion_handleUpsert, ensures_call]
            rintro reply world'' ⟨executed, permitted⟩
            cases reply with
            | error e => exact ensures_done.mpr (.upsertFailed found.symm owner permitted executed)
            | ok committed =>
                obtain ⟨built, rfl⟩ := executed
                have named := configurationId_of_built built
                rw [ensures_bind]
                refine (ensures_setWithExpirationTask _ _ _ _ _).mono
                  fun events outcome final holds => ?_
                rw [ensures_call]
                rintro _ final' ⟨rfl, _⟩
                rw [named] at holds
                refine ensures_done.mpr (.updated found.symm owner built holds.1 ?_)
                rintro ⟨seconds, value, membership⟩
                exact holds.2 ⟨seconds, value, by simpa using membership⟩
          · simp only [owner, if_false]
            exact ensures_done.mpr (.forbidden found.symm owner)

inductive CreateOutcome (commons : Commons) (policy : Semantics Services World) (world : World)
    (newRCConfiguration : NewRCConfigurationPublic) (caller : Caller) :
    Response Body → World → Prop where
  | failed {ulid e detail final} :
      policy world .generateConfigurationId ulid world →
      policy world (.create (makeNewRCConfigurationWithConfigurationId ulid caller.userId
        newRCConfiguration)) (.error e) final →
      (final = world ∨ ∃ committed : RetrievedRCConfiguration,
        committed.toRCConfiguration = makeNewRCConfigurationWithConfigurationId ulid
          caller.userId newRCConfiguration ∧
        world.store.findByConfigurationId ulid = none ∧ final = world.commit committed) →
      CreateOutcome commons policy world newRCConfiguration caller (.errorInternal detail) final
  | created {ulid} {committed : RetrievedRCConfiguration} :
      policy world .generateConfigurationId ulid world →
      world.store.findByConfigurationId ulid = none →
      committed.toRCConfiguration =
        makeNewRCConfigurationWithConfigurationId ulid caller.userId newRCConfiguration →
      CreateOutcome commons policy world newRCConfiguration caller
        (createdResponse commons committed) (world.commit committed)

theorem ensures_createRCConfigurationHandler (world : World)
    (newRCConfiguration : NewRCConfigurationPublic) {caller : Caller}
    (authorized : caller.Authorized) :
    Ensures (exec.restrict policy) world
      (createRCConfigurationHandler commons newRCConfiguration caller)
      fun _ => CreateOutcome commons policy world newRCConfiguration caller := by
  rw [createRCConfigurationHandler_of_authorized commons authorized, ensures_call]
  rintro ulid world' ⟨rfl, generated⟩
  rw [ensures_call]
  rintro reply final ⟨executed, permitted⟩
  cases reply with
  | error e =>
      refine ensures_done.mpr (.failed generated permitted ?_)
      rcases executed with unchanged | ⟨absent, committed, built, written⟩
      · exact .inl unchanged
      · exact .inr ⟨committed, built, absent, written⟩
  | ok committed =>
      obtain ⟨absent, built, rfl⟩ := executed
      exact ensures_done.mpr (.created generated absent built)

inductive ListOutcome (commons : Commons) (policy : Semantics Services World) (world : World)
    (caller : Caller) : Response Body → Prop where
  | indexFailed {e detail} :
      policy world (.findAllByUserId caller.userId) (.error e) world →
      ListOutcome commons policy world caller (.errorInternal detail)
  | storeFailed {ids e detail} :
      policy world (.findAllByConfigurationId ids) (.error e) world →
      ListOutcome commons policy world caller (.errorInternal detail)
  | listed {retrievedConfigurations : List RetrievedRCConfiguration} :
      retrievedConfigurations.Nodup →
      (∀ configuration, configuration ∈ retrievedConfigurations ↔
        ∃ configurationId ∈ configIdList commons (world.userIndex caller.userId),
          world.store.findByConfigurationId configurationId = some configuration) →
      ListOutcome commons policy world caller
        (listResponse commons caller.userId retrievedConfigurations)

theorem ensures_listRCConfigurationHandler (world : World) {caller : Caller}
    (authorized : caller.Authorized) :
    Ensures (exec.restrict policy) world (listRCConfigurationHandler commons caller)
      fun _ response final => final = world ∧ ListOutcome commons policy world caller response := by
  rw [listRCConfigurationHandler_of_authorized commons authorized, ensures_call]
  rintro reply world' ⟨⟨rfl, answers⟩, permitted⟩
  cases reply with
  | error e => exact ensures_done.mpr ⟨rfl, .indexFailed permitted⟩
  | ok configList =>
      obtain rfl := answers configList rfl
      rw [ensures_call]
      rintro reply final ⟨⟨rfl, answers⟩, permitted⟩
      cases reply with
      | error e => exact ensures_done.mpr ⟨rfl, .storeFailed permitted⟩
      | ok retrievedConfigurations =>
          obtain ⟨distinct, members⟩ := answers retrievedConfigurations rfl
          exact ensures_done.mpr ⟨rfl, .listed distinct members⟩

end ServiceMessages.RemoteContent
