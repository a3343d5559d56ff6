import ServiceMessages.RemoteContent.Outcomes
import ServiceMessages.RemoteContent.Serialization

/-!
# The cache only saves reads

`getRCConfigurationHandler` answers like a handler without a cache, for every
behaviour of the cache whose usable entries agree with the store.
-/

namespace ServiceMessages.RemoteContent

open Interaction TaskEither

variable (commons : Commons) (config : IConfig)

/-- Reading a configuration from the store alone. -/
def cachelessGet (store : Store) (configurationId : Ulid) (caller : Caller) : Response Body :=
  if caller.userId ≠ config.internalUserId.val ∧ ¬ caller.Authorized then
    responseErrorForbiddenNotAuthorized
  else
    match store.findByConfigurationId configurationId with
    | none =>
        .errorNotFound "Configuration not found"
          ("Cannot find any configuration with configurationId: " ++ configurationId.text)
    | some configuration =>
        if caller.userId ≠ config.internalUserId.val ∧ configuration.userId ≠ caller.userId then
          responseErrorForbiddenNotAuthorized
        else
          .successJson (.configuration
            { commons.retrievedRCConfigurationToPublic configuration with
              user_id := configuration.userId })

theorem cachelessGet_of_mayGet {caller : Caller} (mayGet : MayGet config caller) (store : Store)
    (configurationId : Ulid) :
    cachelessGet commons config store configurationId caller =
      lookupResponse commons config configurationId caller
        (store.findByConfigurationId configurationId) := by
  have passes : ¬ (caller.userId ≠ config.internalUserId.val ∧ ¬ caller.Authorized) := by
    rintro ⟨external, unauthorized⟩
    rcases mayGet with internal | authorized
    · exact external internal.symm
    · exact unauthorized authorized
  rw [cachelessGet, if_neg passes]
  cases store.findByConfigurationId configurationId with
  | none => rfl
  | some configuration =>
      by_cases allowed : config.internalUserId.val = caller.userId ∨
          configuration.userId = caller.userId
      · have granted : ¬ (caller.userId ≠ config.internalUserId.val ∧
            configuration.userId ≠ caller.userId) := by
          rintro ⟨external, foreign⟩
          exact allowed.elim (fun internal => external internal.symm) foreign
        simp only [lookupResponse, allowed, if_true, granted, if_false]
        rfl
      · obtain ⟨external, foreign⟩ := not_or.mp allowed
        have rejected : caller.userId ≠ config.internalUserId.val ∧
            configuration.userId ≠ caller.userId := ⟨Ne.symm external, foreign⟩
        simp only [lookupResponse, if_neg allowed, if_pos rejected]

theorem status_lookupResponse_ne (configurationId : Ulid) (caller : Caller)
    (found : Option RetrievedRCConfiguration) :
    (lookupResponse commons config configurationId caller found).status ≠ 500 := by
  cases found with
  | none => simp [lookupResponse, Response.status]
  | some configuration =>
      simp only [lookupResponse]
      split_ifs <;> simp [Response.status, responseErrorForbiddenNotAuthorized]

variable {commons} in
theorem LookupOutcome.fills {world final : World} {configurationId : Ulid}
    {events : List (Event Services)} {outcome : Except JsError (Option RetrievedRCConfiguration)}
    (lookup : LookupOutcome commons unexpired world configurationId events outcome final) :
    final = world ∨ ∃ configuration,
      world.store.findByConfigurationId configurationId = some configuration ∧
        final = world.setCache (redisKey configurationId)
          (some (commons.stringify configuration)) := by
  have unchanged : LeftAlone unexpired world (redisKey configurationId) final → final = world :=
    fun leftAlone => leftAlone.elim id And.right
  cases lookup with
  | hit => exact .inl rfl
  | failed leftAlone => exact .inl (unchanged leftAlone)
  | absent leftAlone => exact .inl (unchanged leftAlone)
  | found stored effect =>
      rcases effect with leftAlone | filled
      · exact .inl (unchanged leftAlone)
      · exact .inr ⟨_, stored, filled⟩

/-- Whatever the cache does, the answer is the one of a handler without a cache
as long as the read of the store, where it is issued, succeeds.  A caller who
fails the first check issues no command, an internal error comes from the
store alone, and all that may change is that the entry of the configuration is
filled with the stored document. -/
theorem getRCConfigurationHandler_refines_cachelessGet (world : World) (configurationId : Ulid)
    (caller : Caller)
    (consistent : ∀ redisValue configuration,
      world.cache (redisKey configurationId) = some redisValue →
        cachedConfiguration commons redisValue = some configuration →
          world.store.findByConfigurationId configurationId = some configuration) :
    (∃ events response final, Runs (exec.restrict unexpired) world
      (getRCConfigurationHandler commons config configurationId caller) events response final) ∧
    Ensures (exec.restrict unexpired) world
      (getRCConfigurationHandler commons config configurationId caller)
      fun events response final =>
        ((∀ e, (⟨.findByConfigurationId configurationId, .error e⟩ : Event Services) ∉ events) →
          response = cachelessGet commons config world.store configurationId caller) ∧
        (caller.userId ≠ config.internalUserId.val → ¬ caller.Authorized → events = []) ∧
        (response.status = 500 →
          ∃ e, (⟨.findByConfigurationId configurationId, .error e⟩ : Event Services) ∈ events) ∧
        (final = world ∨ ∃ configuration,
          world.store.findByConfigurationId configurationId = some configuration ∧
            final = world.setCache (redisKey configurationId)
              (some (commons.stringify configuration))) := by
  refine ⟨Runs.exists_of_total total_unexpired _ world, ?_⟩
  by_cases mayGet : MayGet config caller
  · refine (ensures_getRCConfigurationHandler world configurationId mayGet).mono
      fun events response final => ?_
    rintro ⟨outcome, lookup, rfl⟩
    rw [cachelessGet_of_mayGet commons config mayGet]
    refine ⟨?_, ?_, ?_, lookup.fills⟩
    · intro succeeds
      cases lookup with
      | hit present decodes => rw [consistent _ _ present decodes]
      | failed _ _ membership => exact absurd membership (succeeds _)
      | absent _ missing => rw [missing]
      | found stored _ => rw [stored]
    · intro external unauthorized
      rcases mayGet with internal | authorized
      · exact absurd internal.symm external
      · exact absurd authorized unauthorized
    · intro internalError
      cases lookup with
      | failed _ _ membership => exact ⟨_, membership⟩
      | hit | absent | found =>
          exact absurd internalError (status_lookupResponse_ne commons config _ _ _)
  · rw [getRCConfigurationHandler_of_not_mayGet commons config mayGet, ensures_done]
    obtain ⟨external, unauthorized⟩ := not_or.mp mayGet
    refine ⟨fun _ => ?_, fun _ _ => rfl, fun impossible => ?_, .inl rfl⟩
    · exact (if_pos ⟨Ne.symm external, unauthorized⟩).symm
    · cases impossible

theorem getRCConfigurationHandler_refines_cachelessGet_sample :
    (∃ events response final, Runs (exec.restrict unexpired) aCachedWorld
      (getRCConfigurationHandler Commons.standard aConfig aConfigurationId aCaller)
      events response final) ∧
    Ensures (exec.restrict unexpired) aCachedWorld
      (getRCConfigurationHandler Commons.standard aConfig aConfigurationId aCaller)
      fun events response final =>
        ((∀ e, (⟨.findByConfigurationId aConfigurationId, .error e⟩ : Event Services) ∉ events) →
          response = cachelessGet Commons.standard aConfig aCachedWorld.store aConfigurationId
            aCaller) ∧
        (aCaller.userId ≠ aConfig.internalUserId.val → ¬ aCaller.Authorized → events = []) ∧
        (response.status = 500 →
          ∃ e, (⟨.findByConfigurationId aConfigurationId, .error e⟩ : Event Services) ∈ events) ∧
        (final = aCachedWorld ∨ ∃ configuration,
          aCachedWorld.store.findByConfigurationId aConfigurationId = some configuration ∧
            final = aCachedWorld.setCache (redisKey aConfigurationId)
              (some (Commons.standard.stringify configuration))) := by
  refine getRCConfigurationHandler_refines_cachelessGet Commons.standard aConfig aCachedWorld
    aConfigurationId aCaller fun redisValue configuration present decodes => ?_
  obtain rfl := Option.some.inj (aCachedWorld_cached.symm.trans present)
  rw [cachedConfiguration_stringify] at decodes
  rw [aCachedWorld_stored, decodes]

end ServiceMessages.RemoteContent
