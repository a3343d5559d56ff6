import ServiceMessages.Environment.Codecs
import ServiceMessages.Redis.Expiration
import ServiceMessages.RemoteContent.Serving

/-!
# Which cache lifetimes are usable

The lifetime of an entry is read from the environment, handed over as a number
and sent to the cache as a text.  The three have different ranges, and an entry
is written only if the lifetime is in the range of the last one.
-/

namespace ServiceMessages.RemoteContent

open Interaction TaskEither Redis Environment

/-- The part of the configuration the handlers use, from the variables it is
read from. -/
def IConfig.decode (environment : String → Option String) : Option IConfig :=
  match Setting.INTERNAL_USER_ID.validate environment,
      Setting.RC_CONFIGURATION_CACHE_TTL.validate environment with
  | .ok internalUserId, .ok rcConfigurationCacheTtl =>
      some { internalUserId, rcConfigurationCacheTtl }
  | _, _ => none

@[ext]
structure TimedWorld where
  world : World
  expiry : String → Option ℕ

namespace TimedWorld

def setex (timed : TimedWorld) (now : ℕ) (key : String) (lifetime : ℕ) (value : String) :
    TimedWorld where
  world := timed.world.setCache key (some value)
  expiry := Function.update timed.expiry key (some (now + lifetime * 1000))

def Keeps (timed : TimedWorld) (now : ℕ) (key value : String) : Prop :=
  timed.world.cache key = some value ∧ ∃ expiry, timed.expiry key = some expiry ∧ now < expiry

theorem keeps_setex (timed : TimedWorld) (now : ℕ) (key : String) {lifetime : ℕ}
    (positive : 1 ≤ lifetime) (value : String) :
    (timed.setex now key lifetime value).Keeps now key value := by
  refine ⟨World.cache_setCache_self .., now + lifetime * 1000, ?_, by omega⟩
  exact Function.update_self ..

end TimedWorld

/-- The cache answers every command, at the time `now`.  It refuses a write if
it does not accept the expiration. -/
def cacheAvailable (now : ℕ) : Semantics Services TimedWorld :=
  fun timed command reply timed' =>
    match command, reply with
    | .getInstance, reply => reply = .ok () ∧ timed' = timed
    | .get key, reply => reply = .ok (timed.world.cache key) ∧ timed' = timed
    | .setex key seconds value, reply =>
        match expiration? now (finiteText seconds) with
        | some lifetime => reply = .ok (some "OK") ∧ timed' = timed.setex now key lifetime value
        | none => (∃ error, reply = .error error) ∧ timed' = timed
    | command, reply => exec timed.world command reply timed'.world ∧ timed'.expiry = timed.expiry

variable {commons : Commons} {config : IConfig} {now : ℕ}

/-- A cache with a clock is one of the caches the handlers are made for. -/
theorem exec_of_cacheAvailable {timed timed' : TimedWorld} {command : Command}
    {reply : Services.Reply command} (executed : cacheAvailable now timed command reply timed') :
    exec timed.world command reply timed'.world := by
  cases command with
  | getInstance =>
      obtain ⟨-, rfl⟩ := executed
      rfl
  | get key =>
      obtain ⟨rfl, rfl⟩ := executed
      refine .inl ⟨rfl, ?_⟩
      rintro answer ⟨⟩
      rfl
  | setex key seconds value =>
      cases accepted : expiration? now (finiteText seconds) with
      | some lifetime =>
          simp only [cacheAvailable, accepted] at executed
          obtain ⟨-, rfl⟩ := executed
          exact .inl rfl
      | none =>
          simp only [cacheAvailable, accepted] at executed
          obtain ⟨⟨error, rfl⟩, rfl⟩ := executed
          exact .inr ⟨rfl, by simp⟩
  | _ => exact executed.1

theorem ensures_setWithExpirationTask_cacheAvailable {seconds lifetime : ℕ}
    (accepted : expiration? now (finiteText seconds) = some lifetime) (timed : TimedWorld)
    (key value : String) (errorMsg : Option String) :
    Ensures (cacheAvailable now) timed (setWithExpirationTask key value seconds errorMsg)
      fun events _ final =>
        events = [⟨.getInstance, .ok ()⟩, ⟨.setex key seconds value, .ok (some "OK")⟩] ∧
          final = timed.setex now key lifetime value := by
  rw [setWithExpirationTask_eq, ensures_call]
  rintro client timed' ⟨rfl, rfl⟩
  rw [ensures_call]
  intro reply final executed
  simp only [cacheAvailable, accepted] at executed
  obtain ⟨rfl, rfl⟩ := executed
  simp

theorem seconds_of_setex {world final : World} {request : Request}
    {events : List (Event Services)} {response : Response Body}
    (runs : Runs exec world (handler commons config request) events response final)
    {key value : String} {seconds : ℕ} {reply : Except JsError (Option String)}
    (issued : (⟨.setex key seconds value, reply⟩ : Event Services) ∈ events) :
    seconds = config.rcConfigurationCacheTtl := by
  have conforms : (lifecycle commons config).Conforms Truthful _ _ _ :=
    conforms_handler (fun _ => id) request
  obtain ⟨phase, allowed⟩ := conforms.allows_of_runs
    (fun _ _ _ _ executed => truthful_of_exec executed) runs _ issued
  have mayCache : phase.MayCache commons config key seconds value := by
    cases here : phase.request <;> simp [lifecycle, Phase.Allows, here] at allowed <;>
      exact allowed
  obtain ⟨_, _, _, same, _⟩ := mayCache
  exact same

/-- The stored configuration is in the cache and will be for some time. -/
def CachesStored (commons : Commons) (now : ℕ) (timed : TimedWorld) (configurationId : Ulid) :
    Prop :=
  ∃ configuration, timed.world.store.findByConfigurationId configurationId = some configuration ∧
    timed.Keeps now (redisKey configurationId) (commons.stringify configuration)

/-- The reply by which a lookup that missed the cache learns of a configuration. -/
def ReadFromStore (configurationId : Ulid) (events : List (Event Services)) : Prop :=
  ∃ configuration,
    (⟨.findByConfigurationId configurationId, .ok (some configuration)⟩ : Event Services) ∈ events

section Accepted

variable {lifetime : ℕ}
  (accepted : expiration? now (finiteText config.rcConfigurationCacheTtl) = some lifetime)

include accepted

theorem ensures_findAndCache_cachesStored (timed : TimedWorld) (configurationId : Ulid) :
    Ensures (cacheAvailable now) timed
      (findAndCacheMaybeRCConfigurationById commons config configurationId)
      fun events _ final =>
        ReadFromStore configurationId events → CachesStored commons now final configurationId := by
  rw [findAndCacheMaybeRCConfigurationById_eq, ensures_call]
  rintro reply timed' ⟨⟨same, answers⟩, -⟩
  cases reply with
  | error e => exact ensures_left.mpr (by simp [ReadFromStore])
  | ok answer =>
      have found := answers answer rfl
      cases answer with
      | none => exact ensures_of.mpr (by simp [ReadFromStore])
      | some configuration =>
          rw [ensures_bind]
          refine (ensures_setWithExpirationTask_cacheAvailable accepted _ _ _ _).mono
            fun events outcome final written => ensures_of.mpr fun _ => ?_
          obtain ⟨-, rfl⟩ := written
          have positive := (expiration?_eq_some_iff.mp accepted).2.1
          refine ⟨configuration, ?_, TimedWorld.keeps_setex _ _ _ positive _⟩
          rw [found, ← same]
          rfl

theorem ensures_getOrCache_cachesStored (timed : TimedWorld) (configurationId : Ulid) :
    Ensures (cacheAvailable now) timed
      (getOrCacheMaybeRCConfigurationById commons config configurationId)
      fun events _ final =>
        ReadFromStore configurationId events → CachesStored commons now final configurationId := by
  rw [getOrCacheMaybeRCConfigurationById_eq, ensures_call]
  rintro client timed' ⟨rfl, rfl⟩
  rw [ensures_call]
  rintro reply timed'' ⟨rfl, rfl⟩
  cases usableReply commons (.ok (timed''.world.cache (redisKey configurationId))) with
  | some configuration => exact ensures_of.mpr (by simp [ReadFromStore])
  | none =>
      refine (ensures_findAndCache_cachesStored accepted timed'' configurationId).mono
        fun events outcome final cached read => cached ?_
      simpa [ReadFromStore] using read

theorem ensures_get_cachesStored (timed : TimedWorld) (configurationId : Ulid) (caller : Caller) :
    Ensures (cacheAvailable now) timed (handler commons config (.get configurationId caller))
      fun events _ final =>
        ReadFromStore configurationId events → CachesStored commons now final configurationId := by
  rw [handler]
  by_cases mayGet : MayGet config caller
  · rw [getRCConfigurationHandler_of_mayGet commons config mayGet, ensures_fold]
    refine (ensures_getOrCache_cachesStored accepted timed configurationId).mono
      fun events outcome final cached => ⟨?_, ?_⟩
    · intro maybeRCConfiguration _
      simpa using cached
    · intro error _
      simpa using cached
  · rw [getRCConfigurationHandler_of_not_mayGet commons config mayGet]
    exact ensures_done.mpr (by simp [ReadFromStore])

theorem ensures_update_cachesStored (timed : TimedWorld)
    (newRCConfiguration : NewRCConfigurationPublic) (configurationId : Ulid) (caller : Caller) :
    Ensures (cacheAvailable now) timed
      (handler commons config (.update newRCConfiguration configurationId caller))
      fun _ response final =>
        response.status = 204 → CachesStored commons now final configurationId := by
  have refused : (responseErrorForbiddenNotAuthorized : Response Body).status ≠ 204 := by
    simp [Response.status_eq_204_iff, responseErrorForbiddenNotAuthorized]
  rw [handler]
  by_cases authorized : caller.Authorized
  · rw [updateRCConfigurationHandler_of_authorized commons config authorized, ensures_call]
    rintro reply timed' -
    cases reply with
    | error e => exact ensures_done.mpr (by simp [Response.status_eq_204_iff])
    | ok answer =>
        cases answer with
        | none => exact ensures_done.mpr (by simp [Response.status_eq_204_iff])
        | some previous =>
            by_cases owner : previous.userId = caller.userId
            · simp only [owner, if_true]
              rw [toUnion_handleUpsert, ensures_call]
              rintro reply timed'' ⟨executed, -⟩
              cases reply with
              | error e => exact ensures_done.mpr (by simp [Response.status_eq_204_iff])
              | ok committed =>
                  obtain ⟨built, here⟩ := executed
                  rw [ensures_bind]
                  refine (ensures_setWithExpirationTask_cacheAvailable accepted _ _ _ _).mono
                    fun events outcome final written => ?_
                  rw [ensures_call]
                  rintro _ final' ⟨sameWorld, sameExpiry⟩
                  obtain ⟨-, rfl⟩ := written
                  obtain rfl : final' = _ := TimedWorld.ext sameWorld sameExpiry
                  have positive := (expiration?_eq_some_iff.mp accepted).2.1
                  have named := configurationId_of_built built
                  refine ensures_done.mpr fun _ => ⟨committed, ?_, ?_⟩
                  · rw [← named, TimedWorld.setex, World.store_setCache, here]
                    exact Store.findByConfigurationId_commit_self ..
                  · rw [← named]
                    exact TimedWorld.keeps_setex _ _ _ positive _
            · simp only [owner, if_false]
              exact ensures_done.mpr (absurd · refused)
  · rw [updateRCConfigurationHandler_of_not_authorized commons config authorized]
    exact ensures_done.mpr (absurd · refused)

end Accepted

/-- Every lifetime that is sent to the cache is accepted.  While the cache is
available, a `get` that has to read the store and an update that is answered
with success leave what is stored in the cache for some time. -/
structure LifetimeUsable (commons : Commons) (config : IConfig) (now : ℕ) : Prop where
  accepted : ∀ {world final : World} {request events response},
    Runs exec world (handler commons config request) events response final →
    ∀ {key seconds value reply},
      (⟨.setex key seconds value, reply⟩ : Event Services) ∈ events →
        (expiration? now (finiteText seconds)).isSome
  get : ∀ {timed final : TimedWorld} {configurationId caller events response},
    Runs (cacheAvailable now) timed (handler commons config (.get configurationId caller))
      events response final →
    ReadFromStore configurationId events → CachesStored commons now final configurationId
  update : ∀ {timed final : TimedWorld} {newRCConfiguration configurationId caller events response},
    Runs (cacheAvailable now) timed
      (handler commons config (.update newRCConfiguration configurationId caller))
      events response final →
    response.status = 204 → CachesStored commons now final configurationId

theorem lifetimeUsable_iff_isSome :
    LifetimeUsable commons config now ↔
      (expiration? now (finiteText config.rcConfigurationCacheTtl)).isSome := by
  constructor
  · intro usable
    have updates := runs_update permissive_reliable aCaller_authorized aStoredWorld_stored
      rfl anUpdatedPublicRemoteContentConfiguration rfl
      (caches permissive_reliable (aStoredWorld.commit anUpdatedRCConfiguration)
        (redisKey aConfigurationId) (commons.stringify anUpdatedRCConfiguration)
        config.rcConfigurationCacheTtl)
    exact usable.accepted (updates.mono fun _ _ _ _ executed => executed.1)
      (.tail _ (.tail _ (.tail _ (.head _))))
  · intro isSome
    obtain ⟨lifetime, accepted⟩ := Option.isSome_iff_exists.mp isSome
    constructor
    · intro world final request events response runs key seconds value reply issued
      rw [seconds_of_setex runs issued]
      exact isSome
    · intro timed final configurationId caller events response runs
      exact ensures_get_cachesStored accepted timed configurationId caller _ _ _ runs
    · intro timed final newRCConfiguration configurationId caller events response runs
      exact ensures_update_cachesStored accepted timed newRCConfiguration configurationId caller
        _ _ _ runs

theorem IConfig.nonNegativeIntegerFromString_of_decode {environment : String → Option String}
    (decoded : IConfig.decode environment = some config) {text : String}
    (given : environment "RC_CONFIGURATION_CACHE_TTL" = some text) :
    nonNegativeIntegerFromString text = some config.rcConfigurationCacheTtl := by
  unfold IConfig.decode at decoded
  split at decoded
  · rename_i internalUserId ttl _ validated
    cases decoded
    obtain ⟨same, number, is, denoted, value⟩ := validate_eq_ok_iff.mp validated
    obtain rfl : text = same := Option.some.inj (given.symm.trans is)
    exact nonNegativeIntegerFromString_eq_some_iff.mpr ⟨number, denoted, value⟩
  · cases decoded

/-- A lifetime the configuration accepts is usable exactly when the number it
stands for is not zero and does not end beyond the clock of the cache. -/
theorem lifetimeUsable_iff (commons : Commons) {environment : String → Option String}
    {config : IConfig} (decoded : IConfig.decode environment = some config) {text : String}
    (given : environment "RC_CONFIGURATION_CACHE_TTL" = some text) (now : ℕ) :
    LifetimeUsable commons config now ↔
      ∃ number, stringToNumber text = .finite number ∧ 1 ≤ number.value ∧
        number.value * 1000 + now ≤ 2 ^ 63 - 1 := by
  have parsed := IConfig.nonNegativeIntegerFromString_of_decode decoded given
  obtain ⟨number, denoted, value⟩ := nonNegativeIntegerFromString_eq_some_iff.mp parsed
  have kept := round_of_nonNegativeIntegerFromString parsed
  rw [lifetimeUsable_iff_isSome, expiration?_finiteText kept, Option.isSome_ite]
  simp only [denoted, Number.finite.injEq, exists_eq_left', value]
  have limit : (maxTime : ℚ) = 2 ^ 63 - 1 := by norm_num [maxTime]
  rw [← limit]
  norm_cast

def anEnvironment (rcConfigurationCacheTtl : String) : String → Option String
  | "INTERNAL_USER_ID" => some "internalUserId"
  | "RC_CONFIGURATION_CACHE_TTL" => some rcConfigurationCacheTtl
  | _ => none

theorem decode_anEnvironment {ttl : ℕ} (bound : ttl < 2 ^ 53) :
    IConfig.decode (anEnvironment (String.ofList (Nat.toDigits 10 ttl))) =
      some { aConfig with rcConfigurationCacheTtl := ttl } := by
  have validated : Setting.RC_CONFIGURATION_CACHE_TTL.validate
      (anEnvironment (String.ofList (Nat.toDigits 10 ttl))) = .ok ttl := by
    apply validate_eq_ok_iff.mpr
    obtain ⟨number, denoted, value⟩ := nonNegativeIntegerFromString_eq_some_iff.mp
      (nonNegativeIntegerFromString_toDigits bound)
    exact ⟨_, number, rfl, denoted, value⟩
  rw [IConfig.decode, validated]
  rfl

theorem lifetimeUsable_iff_sample :
    LifetimeUsable Commons.standard { aConfig with rcConfigurationCacheTtl := 3600 }
      1706000000000 := by
  have decoded := decode_anEnvironment (by norm_num : 3600 < 2 ^ 53)
  apply (lifetimeUsable_iff Commons.standard decoded rfl 1706000000000).mpr
  obtain ⟨number, denoted, value⟩ := nearest_natCast (by norm_num : 3600 < 2 ^ 53)
  refine ⟨number, (stringToNumber_toDigits 3600).trans denoted, ?_⟩
  rw [value]
  norm_num

/-- A lifetime of zero is accepted, and nothing is ever cached with it. -/
theorem zero_lifetime_not_usable :
    IConfig.decode (anEnvironment "0") = some { aConfig with rcConfigurationCacheTtl := 0 } ∧
      ¬ LifetimeUsable Commons.standard { aConfig with rcConfigurationCacheTtl := 0 }
        1706000000000 := by
  have decoded := decode_anEnvironment (by norm_num : 0 < 2 ^ 53)
  have digits : String.ofList (Nat.toDigits 10 0) = "0" := by simp [Nat.toDigits_zero]
  rw [digits] at decoded
  refine ⟨decoded, ?_⟩
  have zero := round_natCast (by norm_num : 0 < 2 ^ 53) 0
  rw [lifetimeUsable_iff_isSome, expiration?_finiteText (by simpa using zero)]
  simp

end ServiceMessages.RemoteContent
