import ServiceMessages.Interaction.Deadline
import ServiceMessages.Interaction.Reaction
import ServiceMessages.Redis.Expiration
import ServiceMessages.RemoteContent.Ownership
import ServiceMessages.RemoteContent.Serving

/-!
# How old an answer can be

The endpoints over a world with a clock, in which every version of a
configuration has the time of its commit and every entry of the cache the time
at which it expires.  Whatever fails and however requests overlap, what a `get`
answers was stored not longer ago than an entry lives and a request takes.
-/

namespace ServiceMessages.RemoteContent

open Interaction Protocol Redis

/-- The versions of all configurations, newest first, the entries of the cache
with the times at which they expire, and the time. -/
structure ClockedWorld where
  versions : List (ℕ × RetrievedRCConfiguration)
  entries : String → Option (ℕ × String)
  userIndex : String → List RetrievedUserRCConfiguration
  now : ℕ

namespace ClockedWorld

/-- An entry is not seen any more once it has expired. -/
def visible (clocked : ClockedWorld) (key : String) : Option String :=
  match clocked.entries key with
  | some (expiry, value) => if clocked.now < expiry then some value else none
  | none => none

def world (clocked : ClockedWorld) : World where
  store := ⟨clocked.versions.map Prod.snd⟩
  cache := clocked.visible
  userIndex := clocked.userIndex

theorem visible_eq_some_iff {clocked : ClockedWorld} {key value : String} :
    clocked.visible key = some value ↔
      ∃ expiry, clocked.entries key = some (expiry, value) ∧ clocked.now < expiry := by
  unfold visible
  cases clocked.entries key with
  | none => simp
  | some entry =>
      obtain ⟨expiry, present⟩ := entry
      by_cases alive : clocked.now < expiry
      · simp only [alive, if_true, Option.some.injEq, Prod.mk.injEq]
        constructor
        · rintro rfl
          exact ⟨expiry, ⟨rfl, rfl⟩, alive⟩
        · rintro ⟨_, ⟨-, same⟩, -⟩
          exact same
      · simp only [alive, if_false, Option.some.injEq, Prod.mk.injEq, reduceCtorEq, false_iff]
        rintro ⟨_, ⟨rfl, -⟩, later⟩
        exact alive later

end ClockedWorld

/-- A command takes no time.  What it commits, it commits now, and what it puts
into the cache expires after the seconds it asked for, if the cache accepts them. -/
structure ClockedExec (clocked : ClockedWorld) (command : Command)
    (reply : Services.Reply command) (clocked' : ClockedWorld) : Prop where
  effect : exec clocked.world command reply clocked'.world
  now : clocked'.now = clocked.now
  versions : clocked'.versions = clocked.versions ∨
    ∃ committed, clocked'.versions = (clocked.now, committed) :: clocked.versions
  entries : ∀ key entry, clocked'.entries key = some entry →
    clocked.entries key = some entry ∨
      ∃ seconds value lifetime, command = .setex key seconds value ∧
        expiration? clocked.now (finiteText seconds) = some lifetime ∧
        entry = (clocked.now + lifetime * 1000, value)

/-- Time passes, entries are evicted, and the index of the users changes. -/
inductive ClockDrift : ClockedWorld → ClockedWorld → Prop where
  | tick {clocked} (later : ℕ) :
      clocked.now ≤ later → ClockDrift clocked { clocked with now := later }
  | evict {clocked} (key : String) :
      ClockDrift clocked { clocked with entries := Function.update clocked.entries key none }
  | index {clocked} (userIndex : String → List RetrievedUserRCConfiguration) :
      ClockDrift clocked { clocked with userIndex := userIndex }

def clockedSystem (commons : Commons) (config : IConfig) :
    System Services ClockedWorld Request (Response Body) where
  exec := ClockedExec
  drift := ClockDrift
  handler := handler commons config

theorem onward_of_clockDrift {clocked clocked' : ClockedWorld}
    (drifted : ClockDrift clocked clocked') : clocked.now ≤ clocked'.now := by
  cases drifted with
  | tick later ordered => exact ordered
  | evict | index => exact Nat.le_refl clocked.now

/-- At this time the configuration was stored: it had been committed, and no
other version had replaced it yet. -/
def WasStored (clocked : ClockedWorld) (configuration : RetrievedRCConfiguration) (time : ℕ) :
    Prop :=
  time ≤ clocked.now ∧ ∃ newer older committed,
    clocked.versions = newer ++ (committed, configuration) :: older ∧ committed ≤ time ∧
      ∀ version ∈ newer, version.2.configurationId = configuration.configurationId →
        time ≤ version.1

section WasStored

variable {clocked clocked' : ClockedWorld} {configuration : RetrievedRCConfiguration} {time : ℕ}

theorem WasStored.executed (wasStored : WasStored clocked configuration time) {command : Command}
    {reply : Services.Reply command} (executed : ClockedExec clocked command reply clocked') :
    WasStored clocked' configuration time := by
  obtain ⟨past, newer, older, committed, split, before, unreplaced⟩ := wasStored
  refine ⟨by rwa [executed.now], ?_⟩
  rcases executed.versions with same | ⟨version, added⟩
  · exact ⟨newer, older, committed, same.trans split, before, unreplaced⟩
  · refine ⟨(clocked.now, version) :: newer, older, committed, by rw [added, split]; rfl,
      before, ?_⟩
    rw [List.forall_mem_cons]
    exact ⟨fun _ => past, unreplaced⟩

theorem WasStored.drifted (wasStored : WasStored clocked configuration time)
    (drifted : ClockDrift clocked clocked') : WasStored clocked' configuration time := by
  obtain ⟨past, history⟩ := wasStored
  refine ⟨Nat.le_trans past (onward_of_clockDrift drifted), ?_⟩
  cases drifted <;> exact history

theorem findByConfigurationId_world (clocked : ClockedWorld) (configurationId : Ulid) :
    clocked.world.store.findByConfigurationId configurationId =
      (clocked.versions.find? fun version =>
        version.2.configurationId = configurationId).map Prod.snd :=
  List.find?_map ..

theorem wasStored_now (bounded : ∀ version ∈ clocked.versions, version.1 ≤ clocked.now)
    {configurationId : Ulid}
    (found : clocked.world.store.findByConfigurationId configurationId = some configuration) :
    WasStored clocked configuration clocked.now := by
  have named := Store.configurationId_of_findByConfigurationId found
  rw [findByConfigurationId_world, Option.map_eq_some_iff] at found
  obtain ⟨⟨committed, configuration⟩, newest, rfl⟩ := found
  obtain ⟨-, newer, older, split, others⟩ := List.find?_eq_some_iff_append.mp newest
  refine ⟨Nat.le_refl _, newer, older, committed, split, ?_, ?_⟩
  · exact bounded (committed, configuration) (by simp [split])
  · intro version membership same
    simpa [same.trans named] using others version membership

theorem wasStored_of_committed {command : Command} {reply : Services.Reply command}
    (executed : ClockedExec clocked command reply clocked')
    (commits : clocked'.world = clocked.world.commit configuration) :
    WasStored clocked' configuration clocked.now := by
  have log : clocked'.versions.map Prod.snd = configuration :: clocked.versions.map Prod.snd :=
    congrArg (fun world => world.store.commits) commits
  refine ⟨Nat.le_of_eq executed.now.symm, [], clocked.versions, clocked.now, ?_, Nat.le_refl _,
    by simp⟩
  rcases executed.versions with same | ⟨committed, added⟩
  · have lengths := congrArg List.length log
    simp [same] at lengths
  · rw [added, List.map_cons, List.cons.injEq] at log
    rw [added, ← log.1]
    rfl

theorem WasStored.stored (wasStored : WasStored clocked configuration time) {lastWrite : ℕ}
    (unwritten : ∀ version ∈ clocked.versions,
      version.2.configurationId = configuration.configurationId → version.1 ≤ lastWrite)
    (after : lastWrite < time) :
    clocked.world.store.findByConfigurationId configuration.configurationId =
      some configuration := by
  obtain ⟨-, newer, older, committed, split, -, unreplaced⟩ := wasStored
  have others : ∀ version ∈ newer,
      version.2.configurationId ≠ configuration.configurationId := by
    intro version membership same
    have early := unwritten version (by simp [split, membership]) same
    have late := unreplaced version membership same
    omega
  have newest : (clocked.versions.find? fun version =>
      version.2.configurationId = configuration.configurationId) =
        some (committed, configuration) :=
    List.find?_eq_some_iff_append.mpr ⟨by simp, newer, older, split, by simpa using others⟩
  rw [findByConfigurationId_world, newest]
  rfl

end WasStored

variable {commons : Commons} {config : IConfig}

/-- The entries of the cache stand for configurations that were stored not too
long before the entries expire. -/
structure Recent (commons : Commons) (lag : ℕ) (clocked : ClockedWorld) : Prop where
  bounded : ∀ version ∈ clocked.versions, version.1 ≤ clocked.now
  cached : ∀ configurationId expiry value,
    clocked.entries (redisKey configurationId) = some (expiry, value) →
      ∃ configuration time, configuration.configurationId = configurationId ∧
        value = commons.stringify configuration ∧ WasStored clocked configuration time ∧
        expiry ≤ time + lag

/-- A request is about to cache what was stored since it was started, and is
about to answer what was stored not too long before. -/
structure Recalls (lag : ℕ) (clocked : ClockedWorld) (start : ℕ) (phase : Phase) : Prop where
  pending : ∀ configuration, phase.pending = some configuration →
    ∃ time, WasStored clocked configuration time ∧ start ≤ time
  lookup : ∀ configurationId caller configuration,
    phase.request = .get configurationId caller → phase.lookup = some (some configuration) →
      configuration.configurationId = configurationId ∧
        ∃ time, WasStored clocked configuration time ∧ start ≤ time + lag

section Steps

variable {lag limit start : ℕ} {clocked clocked' : ClockedWorld} {phase : Phase}
  {command : Command} {reply : Services.Reply command}

theorem Recalls.executed (recalls : Recalls lag clocked start phase)
    (executed : ClockedExec clocked command reply clocked') : Recalls lag clocked' start phase where
  pending configuration held := by
    obtain ⟨time, wasStored, since⟩ := recalls.pending configuration held
    exact ⟨time, wasStored.executed executed, since⟩
  lookup configurationId caller configuration asked found := by
    obtain ⟨named, time, wasStored, since⟩ :=
      recalls.lookup configurationId caller configuration asked found
    exact ⟨named, time, wasStored.executed executed, since⟩

theorem Recalls.drifted (recalls : Recalls lag clocked start phase)
    (drifted : ClockDrift clocked clocked') : Recalls lag clocked' start phase where
  pending configuration held := by
    obtain ⟨time, wasStored, since⟩ := recalls.pending configuration held
    exact ⟨time, wasStored.drifted drifted, since⟩
  lookup configurationId caller configuration asked found := by
    obtain ⟨named, time, wasStored, since⟩ :=
      recalls.lookup configurationId caller configuration asked found
    exact ⟨named, time, wasStored.drifted drifted, since⟩

theorem Recent.drifted (recent : Recent commons lag clocked)
    (drifted : ClockDrift clocked clocked') : Recent commons lag clocked' := by
  have versions : clocked'.versions = clocked.versions := by cases drifted <;> rfl
  have entries : ∀ key entry, clocked'.entries key = some entry →
      clocked.entries key = some entry := by
    intro key entry present
    cases drifted with
    | tick | index => exact present
    | evict evicted =>
        by_cases same : key = evicted
        · subst same
          simp at present
        · simpa [Function.update_of_ne same] using present
  constructor
  · intro version membership
    rw [versions] at membership
    exact Nat.le_trans (recent.bounded version membership) (onward_of_clockDrift drifted)
  · intro configurationId expiry value present
    obtain ⟨configuration, time, named, same, wasStored, expires⟩ :=
      recent.cached configurationId expiry value (entries _ _ present)
    exact ⟨configuration, time, named, same, wasStored.drifted drifted, expires⟩

/-- What a request that keeps to the protocol writes to the cache was stored
since the request was started. -/
theorem Recent.executed
    (kept : binary64.round config.rcConfigurationCacheTtl = config.rcConfigurationCacheTtl)
    (recent : Recent commons (limit + config.rcConfigurationCacheTtl * 1000) clocked)
    (recalls : Recalls (limit + config.rcConfigurationCacheTtl * 1000) clocked start phase)
    (inTime : clocked.now ≤ start + limit) (allowed : phase.Allows commons config command)
    (executed : ClockedExec clocked command reply clocked') :
    Recent commons (limit + config.rcConfigurationCacheTtl * 1000) clocked' := by
  constructor
  · intro version membership
    rw [executed.now]
    rcases executed.versions with same | ⟨committed, added⟩
    · exact recent.bounded version (same ▸ membership)
    · rw [added, List.mem_cons] at membership
      rcases membership with rfl | older
      · exact Nat.le_refl _
      · exact recent.bounded version older
  · intro configurationId expiry value present
    rcases executed.entries _ _ present with before | ⟨seconds, written, lifetime, rfl, accepted,
      entry⟩
    · obtain ⟨configuration, time, named, same, wasStored, expires⟩ :=
        recent.cached configurationId expiry value before
      exact ⟨configuration, time, named, same, wasStored.executed executed, expires⟩
    · obtain ⟨configuration, held, sameKey, rfl, rfl⟩ := mayCache_of_allows allowed
      obtain ⟨time, wasStored, since⟩ := recalls.pending configuration held
      rw [expiration?_finiteText kept, Option.ite_none_right_eq_some] at accepted
      obtain ⟨-, sameLifetime⟩ := accepted
      cases sameLifetime
      cases entry
      refine ⟨configuration, time, (redisKey_injective sameKey).symm, rfl,
        wasStored.executed executed, ?_⟩
      omega

/-- What a request learns was stored since it was started, or comes from an
entry that has not expired. -/
theorem Recalls.advanced (recent : Recent commons lag clocked)
    (recalls : Recalls lag clocked start phase) (started : start ≤ clocked.now)
    (allowed : phase.Allows commons config command)
    (executed : ClockedExec clocked command reply clocked') :
    Recalls lag clocked' start (phase.advance commons ⟨command, reply⟩) := by
  have kept := recalls.executed executed
  cases command with
  | get key =>
      cases usable : usableReply commons reply with
      | none => simpa [Phase.advance, usable] using kept
      | some configuration =>
          obtain ⟨configurationId, caller, requestEq, rfl⟩ := request_of_allows_get allowed
          obtain ⟨redisValue, rfl, decodes⟩ := eq_of_usableReply usable
          obtain ⟨-, answers⟩ := executed.effect.resolve_right (by simp)
          obtain ⟨expiry, present, alive⟩ :=
            ClockedWorld.visible_eq_some_iff.mp (answers _ rfl).symm
          obtain ⟨cached, time, named, rfl, wasStored, expires⟩ :=
            recent.cached configurationId expiry redisValue present
          rw [cachedConfiguration_stringify, Option.some.injEq] at decodes
          subst decodes
          refine ⟨by simpa [Phase.advance, usable] using kept.pending, ?_⟩
          intro asked other found requestIs lookupIs
          simp only [Phase.advance, usable, requestEq] at requestIs lookupIs
          cases requestIs
          cases lookupIs
          exact ⟨named, time, wasStored.executed executed, by omega⟩
  | findByConfigurationId requested =>
      cases reply with
      | error error => exact kept
      | ok answer =>
          have found := executed.effect.2 answer rfl
          have learned : ∀ configuration, answer = some configuration →
              configuration.configurationId = requested ∧
                WasStored clocked' configuration clocked.now := by
            rintro configuration rfl
            exact ⟨Store.configurationId_of_findByConfigurationId found.symm,
              (wasStored_now recent.bounded found.symm).executed executed⟩
          cases requestEq : phase.request with
          | get configurationId caller =>
              simp only [Phase.Allows, requestEq] at allowed
              obtain ⟨rfl, -⟩ := allowed
              constructor
              · intro configuration held
                simp only [Phase.advance, requestEq] at held
                exact ⟨clocked.now, (learned configuration held).2, started⟩
              · intro asked other configuration requestIs lookupIs
                simp only [Phase.advance, requestEq, Option.some.injEq] at requestIs lookupIs
                cases requestIs
                obtain ⟨named, wasStored⟩ := learned configuration lookupIs
                exact ⟨named, clocked.now, wasStored, by omega⟩
          | update newRCConfiguration configurationId caller =>
              constructor
              · simpa [Phase.advance, requestEq] using kept.pending
              · simp [Phase.advance, requestEq]
          | create => simp [Phase.Allows, requestEq] at allowed
          | list => simp [Phase.Allows, requestEq] at allowed
  | upsert configuration =>
      cases reply with
      | error error => exact kept
      | ok committed =>
          obtain ⟨_, caller, owned, requestEq, _⟩ := owner_of_allows_upsert allowed
          have wasStored := wasStored_of_committed executed executed.effect.2
          constructor
          · intro held pendingIs
            simp only [Phase.advance, Option.some.injEq] at pendingIs
            subst pendingIs
            exact ⟨clocked.now, wasStored, started⟩
          · simp [Phase.advance, requestEq]
  | create configuration =>
      have requestEq := target_of_allows_create allowed
      cases reply with
      | error error => exact kept
      | ok committed =>
          refine ⟨by simpa [Phase.advance] using kept.pending, ?_⟩
          intro asked other found requestIs
          simp only [Phase.advance] at requestIs
          simp [requestIs, Request.target] at requestEq
  | setex key seconds value => exact ⟨by simp [Phase.advance], kept.lookup⟩
  | generateConfigurationId => exact ⟨kept.pending, kept.lookup⟩
  | _ => exact kept

end Steps

section Runs

variable {Thread : Type} [DecidableEq Thread] {limit : ℕ} {first : ClockedWorld}
  {current : Config Services ClockedWorld Thread Request (Response Body)} {began : Thread → ℕ}

theorem now_of_clockedExec {clocked clocked' : ClockedWorld} {command : Command}
    {reply : Services.Reply command}
    (executed : (clockedSystem commons config).exec clocked command reply clocked') :
    clocked'.now = clocked.now :=
  ClockedExec.now executed

theorem truthful_of_clockedExec {clocked clocked' : ClockedWorld} {command : Command}
    {reply : Services.Reply command}
    (executed : (clockedSystem commons config).exec clocked command reply clocked') :
    Truthful ⟨command, reply⟩ :=
  truthful_of_exec executed.effect

theorem conforms_clockedSystem (request : Request) :
    (lifecycle commons config).Conforms Truthful (Ends commons config Truthful request)
      ((clockedSystem commons config).handler request)
      ((lifecycle commons config).initial request) :=
  conforms_handler (fun _ => id) request

/-- What the cache holds and what requests know, at any moment of any run. -/
theorem recalls_of_punctual
    (kept : binary64.round config.rcConfigurationCacheTtl = config.rcConfigurationCacheTtl)
    (recent : Recent commons (limit + config.rcConfigurationCacheTtl * 1000) first)
    (punctual : Punctual (clockedSystem commons config) ClockedWorld.now limit first current
      began) :
    ∀ thread phase, (lifecycle commons config).phaseOf current.trace thread = some phase →
      Recalls (limit + config.rcConfigurationCacheTtl * 1000) current.world (began thread)
        phase := by
  refine (punctual.modular_invariant (fun _ _ _ _ => now_of_clockedExec)
    (fun _ _ => onward_of_clockDrift) (fun _ _ _ _ => truthful_of_clockedExec)
    conforms_clockedSystem (Recent commons (limit + config.rcConfigurationCacheTtl * 1000))
    (Recalls (limit + config.rcConfigurationCacheTtl * 1000)) ?_ ?_ ?_ recent).2
  · intro clocked request _
    exact ⟨by simp [lifecycle, Phase.initial], by simp [lifecycle, Phase.initial]⟩
  · intro clocked start phase command reply clocked' recent recalls started inTime allowed executed
    exact ⟨recent.executed kept recalls inTime allowed executed,
      recalls.advanced recent started allowed executed,
      fun _ _ other => other.executed executed⟩
  · intro clocked clocked' recent drifted
    exact ⟨recent.drifted drifted, fun _ _ recalls => recalls.drifted drifted⟩

/-- With an empty cache to start from, every configuration that a `get` answers
was stored at some time, and this time was not longer before the `get` was
started than an entry lives and the slowest request takes.  So a `get` that is
started that long after the last write of its configuration answers what is
stored. -/
theorem answers_are_recent (commons : Commons) (config : IConfig)
    (kept : binary64.round config.rcConfigurationCacheTtl = config.rcConfigurationCacheTtl)
    (uncached : ∀ key, first.entries key = none)
    (bounded : ∀ version ∈ first.versions, version.1 ≤ first.now)
    (punctual : Punctual (clockedSystem commons config) ClockedWorld.now limit first current began)
    {thread : Thread} {configurationId : Ulid} {caller : Caller} {body : Body}
    (answered : current.Answered thread (.get configurationId caller) (.successJson body)) :
    ∃ configuration time,
      body = .configuration (configurationResponse commons configuration) ∧
      configuration.configurationId = configurationId ∧
      WasStored current.world configuration time ∧
      began thread ≤ time + (limit + config.rcConfigurationCacheTtl * 1000) ∧
      ∀ lastWrite,
        (∀ version ∈ current.world.versions,
          version.2.configurationId = configurationId → version.1 ≤ lastWrite) →
        lastWrite + limit + config.rcConfigurationCacheTtl * 1000 < began thread →
        current.world.world.store.findByConfigurationId configurationId = some configuration := by
  have recalled := recalls_of_punctual kept ⟨bounded, by simp [uncached]⟩ punctual
  obtain ⟨-, governs⟩ := (governs_initial _ first).reaches
    (fun _ _ _ _ => truthful_of_clockedExec) conforms_clockedSystem punctual.reaches
  obtain ⟨phase, here, served, explained, -⟩ := governs.answered answered
  obtain ⟨configuration, lookup, -, bodyEq⟩ := explained
  obtain ⟨named, time, wasStored, since⟩ :=
    (recalled thread phase here).lookup configurationId caller configuration served lookup
  refine ⟨configuration, time, bodyEq, named, wasStored, since, ?_⟩
  intro lastWrite unwritten after
  subst named
  exact wasStored.stored unwritten (by omega)

end Runs

theorem clockedExec_of_still {clocked : ClockedWorld} {command : Command}
    {reply : Services.Reply command} (still : exec clocked.world command reply clocked.world) :
    ClockedExec clocked command reply clocked :=
  ⟨still, rfl, .inl rfl, fun _ _ => .inl⟩

theorem clockedExec_setex {clocked : ClockedWorld} {key value : String} {seconds lifetime : ℕ}
    (accepted : expiration? clocked.now (finiteText seconds) = some lifetime) :
    ClockedExec clocked (.setex key seconds value) (.ok (some "OK"))
      { clocked with
        entries := Function.update clocked.entries key
          (some (clocked.now + lifetime * 1000, value)) } where
  effect := by
    have lives := (expiration?_eq_some_iff.mp accepted).2.1
    refine .inl (congrArg (World.mk _ · _) (funext fun other => ?_))
    by_cases same : other = key
    · subst same
      simp only [ClockedWorld.world, ClockedWorld.visible, Function.update_self]
      rw [if_pos (by omega)]
    · simp only [ClockedWorld.world, ClockedWorld.visible, Function.update_of_ne same]
  now := rfl
  versions := .inl rfl
  entries := by
    intro other entry present
    by_cases same : other = key
    · subst same
      simp only [Function.update_self] at present
      exact .inr ⟨seconds, value, lifetime, rfl, accepted, (Option.some.inj present).symm⟩
    · simp only [Function.update_of_ne same] at present
      exact .inl present

def aClockedWorld : ClockedWorld where
  versions := [(0, aRetrievedRCConfiguration)]
  entries := fun _ => none
  userIndex := fun _ => []
  now := 0

def aCachedClockedWorld : ClockedWorld :=
  { aClockedWorld with
    entries := Function.update aClockedWorld.entries (redisKey aConfigurationId)
      (some (1000000, Commons.standard.stringify aRetrievedRCConfiguration)) }

def aLaterClockedWorld : ClockedWorld :=
  { aCachedClockedWorld with now := 600000 }

theorem kept_aConfig :
    binary64.round aConfig.rcConfigurationCacheTtl = aConfig.rcConfigurationCacheTtl :=
  round_natCast (by decide : 1000 < 2 ^ 53) 0

theorem runs_sample_fill : ∃ events, Runs ClockedExec aClockedWorld
    (handler Commons.standard aConfig (.get aConfigurationId aCaller)) events
    (.successJson (.configuration
      (configurationResponse Commons.standard aRetrievedRCConfiguration)))
    aCachedClockedWorld := by
  have connected : ClockedExec aClockedWorld .getInstance (.ok ()) aClockedWorld :=
    clockedExec_of_still rfl
  have missed : ClockedExec aClockedWorld (.get (redisKey aConfigurationId)) (.ok none)
      aClockedWorld := clockedExec_of_still (readsCached permissive_reliable _ rfl).1
  have read : ClockedExec aClockedWorld (.findByConfigurationId aConfigurationId)
      (.ok (some aRetrievedRCConfiguration)) aClockedWorld :=
    clockedExec_of_still (readsStored permissive_reliable _ aStoredWorld_stored).1
  have accepted : expiration? aClockedWorld.now (finiteText aConfig.rcConfigurationCacheTtl) =
      some 1000 := by
    rw [expiration?_finiteText kept_aConfig]
    rfl
  exact ⟨_, runs_get_of_missed connected missed read (clockedExec_setex accepted)
    (.inr aCaller_authorized)⟩

theorem runs_sample_hit : Runs ClockedExec aLaterClockedWorld
    (handler Commons.standard aConfig (.get aConfigurationId aCaller))
    [⟨.getInstance, .ok ()⟩, ⟨.get (redisKey aConfigurationId),
      .ok (some (Commons.standard.stringify aRetrievedRCConfiguration))⟩]
    (.successJson (.configuration
      (configurationResponse Commons.standard aRetrievedRCConfiguration)))
    aLaterClockedWorld := by
  have entry : aLaterClockedWorld.entries (redisKey aConfigurationId) =
      some (1000000, Commons.standard.stringify aRetrievedRCConfiguration) := by
    simp [aLaterClockedWorld, aCachedClockedWorld]
  have present : aLaterClockedWorld.world.cache (redisKey aConfigurationId) =
      some (Commons.standard.stringify aRetrievedRCConfiguration) :=
    ClockedWorld.visible_eq_some_iff.mpr ⟨_, entry, by decide⟩
  have connected : ClockedExec aLaterClockedWorld .getInstance (.ok ()) aLaterClockedWorld :=
    clockedExec_of_still rfl
  have hit := (readsCached permissive_reliable aLaterClockedWorld.world present).1
  exact runs_get_of_hit connected (clockedExec_of_still hit) (cachedConfiguration_stringify _ _)
    (.inr aCaller_authorized)

/-- One `get` fills the cache, and a second one is answered from it ten minutes later. -/
theorem answers_are_recent_sample :
    ∃ (current : Config Services ClockedWorld ℕ Request (Response Body)) (began : ℕ → ℕ)
      (earlier : List (Label Services ℕ Request)),
      Punctual (clockedSystem Commons.standard aConfig) ClockedWorld.now 5000 aClockedWorld current
        began ∧
      current.trace =
        [.command 1 ⟨.get (redisKey aConfigurationId),
            .ok (some (Commons.standard.stringify aRetrievedRCConfiguration))⟩,
          .command 1 ⟨.getInstance, .ok ()⟩, .start 1 (.get aConfigurationId aCaller), .drift] ++
          earlier ∧
      current.Answered 1 (.get aConfigurationId aCaller) (.successJson (.configuration
        (configurationResponse Commons.standard aRetrievedRCConfiguration))) ∧
      began 1 = 600000 ∧
      ∃ configuration time,
        configurationResponse Commons.standard aRetrievedRCConfiguration =
          configurationResponse Commons.standard configuration ∧
        WasStored current.world configuration time ∧
        began 1 ≤ time + (5000 + aConfig.rcConfigurationCacheTtl * 1000) := by
  obtain ⟨events, fills⟩ := runs_sample_fill
  have begins : Punctual (clockedSystem Commons.standard aConfig) ClockedWorld.now 5000
      aClockedWorld (.initial aClockedWorld) fun _ : ℕ => 0 := .initial
  obtain ⟨filled, punctual, filledWorld, answered, others, -⟩ :=
    begins.serves 0 (.get aConfigurationId aCaller) fills rfl
  have inTime : ∀ thread request command next,
      filled.threads thread = some (request, .call command next) →
        600000 ≤ Function.update (fun _ : ℕ => 0) 0 aClockedWorld.now thread + 5000 := by
    intro thread request command next running
    by_cases first : thread = 0
    · rw [first, answered] at running
      cases running
    · rw [others thread first] at running
      cases running
  have ticks : ClockDrift filled.world aLaterClockedWorld := by
    rw [filledWorld]
    exact .tick 600000 (by decide)
  obtain ⟨current, punctual, -, answeredToo, -, trace⟩ :=
    (punctual.drift _ ticks inTime).serves 1 (.get aConfigurationId aCaller) runs_sample_hit
      (others 1 (by decide))
  obtain ⟨configuration, time, body, -, wasStored, since, -⟩ := answers_are_recent
    Commons.standard aConfig kept_aConfig (fun _ => rfl) (by decide) punctual answeredToo
  exact ⟨current, _, filled.trace, punctual, trace, answeredToo, rfl, configuration, time,
    Body.configuration.inj body, wasStored, since⟩

end ServiceMessages.RemoteContent
