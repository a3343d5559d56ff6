import ServiceMessages.RemoteContent.Ownership
import ServiceMessages.RemoteContent.Serving

/-!
# Coherence of cache and store

When no command fails, an entry of the cache can only fall behind the store in
one way: while the request that wrote it was on its way from the document it
had obtained to the write of the cache, another request replaced the document.
-/

namespace ServiceMessages.RemoteContent

open Interaction Protocol

variable {commons : Commons} {config : IConfig}

/-- Every entry of the cache decodes to the document that is stored. -/
def Coherent (commons : Commons) (world : World) : Prop :=
  ∀ configurationId redisValue, world.cache (redisKey configurationId) = some redisValue →
    ∃ configuration, world.store.findByConfigurationId configurationId = some configuration ∧
      cachedConfiguration commons redisValue = some configuration

/-- The request has the document it may go on to cache: a `get` from its read
of the store, an update from its own write. -/
def Obtains : Event Services → Prop
  | ⟨.findByConfigurationId _, .ok (some _)⟩ => True
  | ⟨.upsert _, .ok _⟩ => True
  | _ => False

def Replaces (configurationId : Ulid) : Event Services → Prop
  | ⟨.upsert configuration, .ok _⟩ => configuration.configurationId = configurationId
  | _ => False

section Schedules

variable {Thread : Type}

/-- No other thread has replaced the configuration since the thread obtained
its document. -/
def Undisturbed (configurationId : Ulid) (thread : Thread) :
    List (Label Services Thread Request) → Prop
  | [] => True
  | .command executing event :: earlier =>
      executing = thread ∧ Obtains event ∨
        ¬ (executing ≠ thread ∧ Replaces configurationId event) ∧
          Undisturbed configurationId thread earlier
  | _ :: earlier => Undisturbed configurationId thread earlier

/-- Whoever wrote the entry of the configuration last, if anybody did, was
undisturbed. -/
def WriterUndisturbed (configurationId : Ulid) :
    List (Label Services Thread Request) → Prop
  | [] => True
  | .command thread ⟨.setex key _ _, _⟩ :: earlier =>
      if key = redisKey configurationId then Undisturbed configurationId thread earlier
      else WriterUndisturbed configurationId earlier
  | _ :: earlier => WriterUndisturbed configurationId earlier

theorem undisturbed_other {configurationId : Ulid} {thread executing : Thread}
    {event : Event Services} {earlier : List (Label Services Thread Request)}
    (distinct : thread ≠ executing)
    (undisturbed : Undisturbed configurationId thread (.command executing event :: earlier)) :
    ¬ Replaces configurationId event ∧ Undisturbed configurationId thread earlier := by
  rcases undisturbed with ⟨same, _⟩ | ⟨notReplaced, before⟩
  · exact absurd same.symm distinct
  · exact ⟨fun replaces => notReplaced ⟨distinct.symm, replaces⟩, before⟩

theorem undisturbed_self {configurationId : Ulid} {thread : Thread} {event : Event Services}
    {earlier : List (Label Services Thread Request)} (notObtained : ¬ Obtains event)
    (undisturbed : Undisturbed configurationId thread (.command thread event :: earlier)) :
    Undisturbed configurationId thread earlier := by
  rcases undisturbed with ⟨_, obtained⟩ | ⟨_, before⟩
  · exact absurd obtained notObtained
  · exact before

end Schedules

section Runs

variable {Thread : Type} [DecidableEq Thread]

/-- Somebody is about to write the entry of the configuration. -/
def Awaited (commons : Commons) (config : IConfig)
    (trace : List (Label Services Thread Request)) (configurationId : Ulid) : Prop :=
  ∃ thread phase configuration,
    (lifecycle commons config).phaseOf trace thread = some phase ∧
      phase.pending = some configuration ∧ configuration.configurationId = configurationId

/-- Documents held by undisturbed requests are the stored ones, and entries
with an undisturbed writer are as well, unless somebody is about to write. -/
structure Settled (commons : Commons) (config : IConfig) (world : World)
    (trace : List (Label Services Thread Request)) : Prop where
  held : ∀ thread phase configuration,
    (lifecycle commons config).phaseOf trace thread = some phase →
      phase.pending = some configuration →
      Undisturbed configuration.configurationId thread trace →
        world.store.findByConfigurationId configuration.configurationId = some configuration
  entry : ∀ configurationId redisValue,
    world.cache (redisKey configurationId) = some redisValue →
      WriterUndisturbed configurationId trace →
        (∃ configuration,
          world.store.findByConfigurationId configurationId = some configuration ∧
            cachedConfiguration commons redisValue = some configuration) ∨
        Awaited commons config trace configurationId

theorem settled_initial {world : World} (coherent : Coherent commons world) :
    Settled commons config world ([] : List (Label Services Thread Request)) where
  held := by simp
  entry := fun configurationId redisValue present _ =>
    .inl (coherent configurationId redisValue present)

section Command

variable {world world' : World} {trace : List (Label Services Thread Request)}
  {thread : Thread} {before : Phase} {command : Command} {reply : Services.Reply command}

theorem Awaited.after {configurationId : Ulid}
    (awaited : Awaited commons config trace configurationId)
    (known : (lifecycle commons config).phaseOf trace thread = some before)
    (keeps : ∀ configuration, before.pending = some configuration →
      configuration.configurationId = configurationId →
        (before.advance commons ⟨command, reply⟩).pending = some configuration) :
    Awaited commons config (.command thread ⟨command, reply⟩ :: trace) configurationId := by
  obtain ⟨holder, phase, configuration, here, pending, named⟩ := awaited
  by_cases same : holder = thread
  · subst same
    rw [known] at here
    cases here
    exact ⟨holder, before.advance commons ⟨command, reply⟩, configuration,
      by simp [known, lifecycle_advance], keeps configuration pending named, named⟩
  · exact ⟨holder, phase, configuration,
      by rwa [phaseOf_command_of_ne _ _ _ (Ne.symm same)], pending, named⟩

/-- What has to be shown of a command: what its own thread holds is stored,
nothing stored is lost that it does not replace, and its effect on the entries. -/
theorem Settled.after (settled : Settled commons config world trace)
    (known : (lifecycle commons config).phaseOf trace thread = some before)
    (own : ∀ configuration,
      (before.advance commons ⟨command, reply⟩).pending = some configuration →
        Undisturbed configuration.configurationId thread
          (.command thread ⟨command, reply⟩ :: trace) →
          world'.store.findByConfigurationId configuration.configurationId = some configuration)
    (stored : ∀ configurationId configuration, ¬ Replaces configurationId ⟨command, reply⟩ →
      world.store.findByConfigurationId configurationId = some configuration →
        world'.store.findByConfigurationId configurationId = some configuration)
    (entry : ∀ configurationId redisValue,
      world'.cache (redisKey configurationId) = some redisValue →
        WriterUndisturbed configurationId (.command thread ⟨command, reply⟩ :: trace) →
          (∃ configuration,
            world'.store.findByConfigurationId configurationId = some configuration ∧
              cachedConfiguration commons redisValue = some configuration) ∨
          Awaited commons config (.command thread ⟨command, reply⟩ :: trace) configurationId) :
    Settled commons config world' (.command thread ⟨command, reply⟩ :: trace) where
  held := by
    intro holder phase configuration here pending undisturbed
    rcases phaseOf_command_cases here with ⟨rfl, other, knownToo, rfl⟩ | ⟨distinct, here⟩
    · rw [known] at knownToo
      cases knownToo
      exact own configuration pending undisturbed
    · obtain ⟨notReplaced, undisturbed⟩ := undisturbed_other distinct undisturbed
      have found := settled.held holder phase configuration here pending undisturbed
      exact stored _ _ notReplaced found
  entry := entry

theorem Settled.quiet (settled : Settled commons config world trace)
    (known : (lifecycle commons config).phaseOf trace thread = some before)
    (pending : (before.advance commons ⟨command, reply⟩).pending = before.pending)
    (notObtained : Obtains ⟨command, reply⟩ → before.pending = none)
    (notWritten : ∀ configurationId,
      WriterUndisturbed configurationId (.command thread ⟨command, reply⟩ :: trace) →
        WriterUndisturbed configurationId trace)
    (cache : ∀ key entry, world'.cache key = some entry → world.cache key = some entry)
    (stored : ∀ configurationId configuration,
      world.store.findByConfigurationId configurationId = some configuration →
        world'.store.findByConfigurationId configurationId = some configuration) :
    Settled commons config world' (.command thread ⟨command, reply⟩ :: trace) := by
  refine settled.after known ?_ (fun _ _ _ => stored _ _) ?_
  · intro configuration held undisturbed
    rw [pending] at held
    by_cases obtained : Obtains ⟨command, reply⟩
    · rw [notObtained obtained] at held
      cases held
    · exact stored _ _ (settled.held thread before configuration known held
        (undisturbed_self obtained undisturbed))
  · intro configurationId redisValue present writer
    rcases settled.entry configurationId redisValue (cache _ _ present) (notWritten _ writer) with
      ⟨configuration, found, decodes⟩ | awaited
    · exact .inl ⟨configuration, stored _ _ found, decodes⟩
    · exact .inr (awaited.after known fun configuration held _ => by rw [pending, held])

theorem idle_of_allows_find {phase : Phase} {requested : Ulid}
    (allowed : phase.Allows commons config (.findByConfigurationId requested)) :
    phase.pending = none := by
  cases requestEq : phase.request <;> simp [Phase.Allows, requestEq] at allowed
  · exact allowed.2
  · exact allowed.2

theorem idle_of_allows_upsert {phase : Phase} {configuration : RCConfiguration}
    (allowed : phase.Allows commons config (.upsert configuration)) :
    phase.pending = none := by
  cases requestEq : phase.request <;> simp [Phase.Allows, requestEq] at allowed
  exact allowed.1

theorem settled_setex (settled : Settled commons config world trace)
    (known : (lifecycle commons config).phaseOf trace thread = some before)
    {written : RetrievedRCConfiguration} (holds : before.pending = some written) (seconds : ℕ)
    (reply : Except JsError (Option String)) :
    Settled commons config
      (world.setCache (redisKey written.configurationId) (some (commons.stringify written)))
      (.command thread ⟨.setex (redisKey written.configurationId) seconds
        (commons.stringify written), reply⟩ :: trace) := by
  refine settled.after known (by simp [Phase.advance]) (fun _ _ _ found => found) ?_
  intro configurationId redisValue present writer
  by_cases same : redisKey written.configurationId = redisKey configurationId
  · have named := redisKey_injective same
    subst named
    rw [World.cache_setCache_self] at present
    cases present
    simp only [WriterUndisturbed, if_true] at writer
    exact .inl ⟨written, settled.held thread before written known holds writer, by simp⟩
  · simp only [WriterUndisturbed, same, if_false] at writer
    rw [World.cache_setCache_of_ne _ (Ne.symm same)] at present
    rcases settled.entry configurationId redisValue present writer with found | awaited
    · exact .inl found
    · refine .inr (awaited.after known fun configuration held named => ?_)
      rw [holds] at held
      cases held
      exact absurd (congrArg redisKey named) same

theorem settled_find (settled : Settled commons config world trace)
    (known : (lifecycle commons config).phaseOf trace thread = some before)
    (idle : before.pending = none) (requested : Ulid) :
    Settled commons config world (.command thread ⟨.findByConfigurationId requested,
      .ok (world.store.findByConfigurationId requested)⟩ :: trace) := by
  refine settled.after known ?_ (fun _ _ _ found => found) ?_
  · intro configuration pending _
    cases requestEq : before.request with
    | get configurationId caller =>
        simp only [Phase.advance, requestEq] at pending
        rwa [Store.configurationId_of_findByConfigurationId pending]
    | _ => simp [Phase.advance, requestEq, idle] at pending
  · intro configurationId redisValue present writer
    rcases settled.entry configurationId redisValue present writer with found | awaited
    · exact .inl found
    · exact .inr (awaited.after known fun configuration held _ => by simp [idle] at held)

theorem settled_upsert (settled : Settled commons config world trace)
    (known : (lifecycle commons config).phaseOf trace thread = some before)
    (idle : before.pending = none) (committed : RetrievedRCConfiguration) :
    Settled commons config (world.commit committed)
      (.command thread ⟨.upsert committed.toRCConfiguration, .ok committed⟩ :: trace) := by
  apply settled.after known
  · intro held pending _
    simp only [Phase.advance, Option.some.injEq] at pending
    subst pending
    exact Store.findByConfigurationId_commit_self _ _
  · intro configurationId configuration kept found
    rwa [World.store_commit, Store.findByConfigurationId_commit_of_ne _ kept]
  · intro configurationId redisValue present writer
    by_cases same : committed.configurationId = configurationId
    · refine .inr ⟨thread, before.advance commons
        ⟨.upsert committed.toRCConfiguration, .ok committed⟩, committed, ?_, rfl, same⟩
      simp [known, lifecycle_advance]
    · rcases settled.entry configurationId redisValue present writer with
        ⟨configuration, found, decodes⟩ | awaited
      · refine .inl ⟨configuration, ?_, decodes⟩
        rwa [World.store_commit, Store.findByConfigurationId_commit_of_ne _ same]
      · exact .inr (awaited.after known fun configuration held _ => by simp [idle] at held)

theorem settled_command (settled : Settled commons config world trace)
    (known : (lifecycle commons config).phaseOf trace thread = some before)
    (allowed : before.Allows commons config command)
    (executed : exec world command reply world') (succeeds : Succeeds ⟨command, reply⟩) :
    Settled commons config world' (.command thread ⟨command, reply⟩ :: trace) := by
  cases command with
  | setex key seconds value =>
      obtain ⟨written, holds, rfl, rfl, rfl⟩ := mayCache_of_allows allowed
      rcases executed with rfl | ⟨_, failed⟩
      · exact settled_setex settled known holds _ reply
      · exact absurd succeeds failed
  | findByConfigurationId requested =>
      obtain ⟨rfl, answers⟩ := executed
      obtain ⟨answer, rfl⟩ := succeeds
      obtain rfl := answers answer rfl
      exact settled_find settled known (idle_of_allows_find allowed) requested
  | upsert configuration =>
      obtain ⟨committed, rfl⟩ := succeeds
      obtain ⟨rfl, rfl⟩ := executed
      exact settled_upsert settled known (idle_of_allows_upsert allowed) committed
  | create configuration =>
      obtain ⟨committed, rfl⟩ := succeeds
      obtain ⟨absent, rfl, rfl⟩ := executed
      refine settled.quiet known rfl (fun obtained => obtained.elim) (fun _ writer => writer)
        (fun _ _ present => present) ?_
      intro configurationId configuration found
      have distinct : committed.configurationId ≠ configurationId := by
        rintro rfl
        rw [found] at absent
        cases absent
      rwa [World.store_commit, Store.findByConfigurationId_commit_of_ne _ distinct]
  | get key =>
      have pending : (before.advance commons ⟨.get key, reply⟩).pending = before.pending := by
        cases usable : usableReply commons reply <;> simp [Phase.advance, usable]
      rcases executed with ⟨rfl, _⟩ | ⟨rfl, _⟩
      · exact settled.quiet known pending (fun obtained => obtained.elim)
          (fun _ writer => writer) (fun _ _ present => present) (fun _ _ found => found)
      · exact settled.quiet known pending (fun obtained => obtained.elim)
          (fun _ writer => writer) (fun _ _ present => World.cache_of_expired present)
          (fun _ _ found => found)
  | getInstance | generateConfigurationId | trackEvent =>
      obtain rfl := executed
      exact settled.quiet known rfl (fun obtained => obtained.elim) (fun _ writer => writer)
        (fun _ _ present => present) (fun _ _ found => found)
  | findAllByConfigurationId | findAllByUserId =>
      obtain ⟨rfl, _⟩ := executed
      exact settled.quiet known rfl (fun obtained => obtained.elim) (fun _ writer => writer)
        (fun _ _ present => present) (fun _ _ found => found)

end Command

theorem settled_start {world : World} {trace : List (Label Services Thread Request)}
    (settled : Settled commons config world trace) (thread : Thread) (request : Request)
    (fresh : (lifecycle commons config).phaseOf trace thread = none) :
    Settled commons config world (.start thread request :: trace) where
  held := by
    intro holder phase configuration here pending undisturbed
    rcases phaseOf_start_cases here with ⟨_, rfl⟩ | ⟨_, here⟩
    · cases pending
    · exact settled.held holder phase configuration here pending undisturbed
  entry := by
    intro configurationId redisValue present writer
    rcases settled.entry configurationId redisValue present writer with
      found | ⟨holder, phase, configuration, here, pending, named⟩
    · exact .inl found
    · have distinct : holder ≠ thread := by
        rintro rfl
        rw [fresh] at here
        cases here
      exact .inr ⟨holder, phase, configuration,
        by rwa [phaseOf_start_of_ne _ _ _ distinct.symm], pending, named⟩

theorem settled_drift {world world' : World} {trace : List (Label Services Thread Request)}
    (settled : Settled commons config world trace) (drifted : Drift commons world world') :
    Settled commons config world' (.drift :: trace) where
  held := by
    rw [drifted.store_eq]
    exact settled.held
  entry := by
    rw [drifted.store_eq]
    intro configurationId redisValue present writer
    exact settled.entry configurationId redisValue (drifted.cache_eq present) writer

/-- A run in which no command fails stays settled. -/
theorem settled_of_run {moment after : Moment Services World Request Thread}
    (run : Relation.ReflTransGen
      ((lifecycle commons config).Step (exec.restrict reliable) (Drift commons)) moment after)
    (initially : Settled commons config moment.1 moment.2) :
    Settled commons config after.1 after.2 := by
  refine Protocol.invariant (Settled commons config) ?_ ?_ ?_ run initially
  · intro world trace thread request settled fresh
    exact settled_start settled thread request fresh
  · intro world trace thread phase command reply world' settled known allowed executed
    exact settled_command settled known allowed executed.1 executed.2
  · intro world trace world' settled drifted
    exact settled_drift settled drifted

theorem cacheAuthentic_of_coherent {world : World} (coherent : Coherent commons world) :
    CacheAuthentic commons world := by
  intro configurationId redisValue present
  obtain ⟨configuration, found, decodes⟩ := coherent configurationId redisValue present
  exact ⟨configuration, Store.mem_commits_of_findByConfigurationId found,
    Store.configurationId_of_findByConfigurationId found, decodes⟩

/-- From coherent states, however requests are interleaved: when no command
fails and no request is in flight, every entry of the cache whose writer was
undisturbed decodes to exactly the stored document, and every entry at all to
a version that was stored under its identifier. -/
theorem coherent_of_writer_undisturbed (commons : Commons) (config : IConfig) (world : World)
    (coherent : Coherent commons world)
    (later : Config Services World Thread Request (Response Body))
    (reaches : (system commons config reliable).Reaches (Config.initial world) later)
    (quiescent : later.Quiescent) :
    (∀ configurationId redisValue,
      later.world.cache (redisKey configurationId) = some redisValue →
        WriterUndisturbed configurationId later.trace →
          ∃ configuration,
            later.world.store.findByConfigurationId configurationId = some configuration ∧
              cachedConfiguration commons redisValue = some configuration) ∧
    ∀ configurationId redisValue,
      later.world.cache (redisKey configurationId) = some redisValue →
        ∃ configuration ∈ later.world.store.commits,
          configuration.configurationId = configurationId ∧
            cachedConfiguration commons redisValue = some configuration := by
  have truthful : ∀ event, Truthful event ∧ Succeeds event → Truthful event :=
    fun _ permitted => permitted.1
  have permits : ∀ world command reply world', exec world command reply world' →
      reliable world command reply world' →
        Truthful ⟨command, reply⟩ ∧ Succeeds ⟨command, reply⟩ :=
    fun _ _ _ _ executed succeeds => ⟨truthful_of_exec executed, succeeds⟩
  obtain ⟨run, governs⟩ := run_of_reaches truthful permits (governs_initial _ _) reaches
  have settled := settled_of_run run (settled_initial coherent)
  have sound := (sound_initial (cacheAuthentic_of_coherent coherent)).reaches reaches
  refine ⟨?_, sound.authentic⟩
  intro configurationId redisValue present writer
  rcases settled.entry configurationId redisValue present writer with
    found | ⟨thread, phase, configuration, here, pending, _⟩
  · exact found
  · exfalso
    cases running : later.threads thread with
    | none =>
        rw [governs.phaseOf_eq_none running] at here
        cases here
    | some started =>
        obtain ⟨request, program⟩ := started
        obtain ⟨result, rfl⟩ := quiescent thread request program running
        obtain ⟨ended, known, _, _, idle⟩ := governs.answered running
        rw [here] at known
        cases known
        rw [idle fun event permitted => cacheSucceeds_of_succeeds permitted.2] at pending
        cases pending

end Runs

theorem coherent_aStoredWorld : Coherent Commons.standard aStoredWorld := by
  intro configurationId redisValue present
  cases present

theorem reaches_of_get_around_update {missed served : List (Event Services)}
    {rest : Program Services (Response Body)} {response : Response Body} {final : World}
    (begins : Advances (exec.restrict reliable) aStoredWorld
      (handler Commons.standard aConfig (.get aConfigurationId aCaller)) missed rest aStoredWorld)
    (finishes : Runs (exec.restrict reliable) anUpdatedWorld rest served response final) :
    ∃ (later : Config Services World ℕ Request (Response Body)) (updated : List (Event Services)),
      (system Commons.standard aConfig reliable).Reaches (.initial aStoredWorld) later ∧
      later.world = final ∧ later.Quiescent ∧
      later.Answered 0 (.get aConfigurationId aCaller) response ∧
      later.Answered 1
        (.update anUpdatedPublicRemoteContentConfiguration aConfigurationId aCaller)
        .successNoContent ∧
      later.trace = (served.map (.command 0)).reverse ++ ((updated.map (.command 1)).reverse ++
        .start 1 (.update anUpdatedPublicRemoteContentConfiguration aConfigurationId aCaller) ::
        ((missed.map (.command 0)).reverse ++ [.start 0 (.get aConfigurationId aCaller)])) := by
  obtain ⟨updated, updates⟩ := runs_sample_update permissive_reliable
  obtain ⟨reading, started, readingWorld, pending, readingOthers, readingTrace⟩ :=
    (system Commons.standard aConfig reliable).reaches_of_start 0
      (.get aConfigurationId aCaller) (Config.initial aStoredWorld) begins rfl
  rw [← readingWorld] at updates
  obtain ⟨between, overtaken, betweenWorld, answered, betweenOthers, betweenTrace⟩ :=
    (system Commons.standard aConfig reliable).reaches_of_start 1
      (.update anUpdatedPublicRemoteContentConfiguration aConfigurationId aCaller) reading
      updates.advances (readingOthers 1 (by decide))
  rw [← betweenOthers 0 (by decide)] at pending
  obtain ⟨later, ended, laterWorld, finished, laterOthers, laterTrace⟩ :=
    (system Commons.standard aConfig reliable).reaches_of_advances finishes.advances between
      betweenWorld pending
  rw [← laterOthers 1 (by decide)] at answered
  refine ⟨later, updated, (started.trans overtaken).trans ended, laterWorld, ?_, finished,
    answered, by rw [laterTrace, betweenTrace, readingTrace]; rfl⟩
  intro thread request program running
  by_cases reader : thread = 0
  · subst reader
    rw [finished] at running
    cases running
    exact ⟨_, rfl⟩
  · by_cases writer : thread = 1
    · subst writer
      rw [answered] at running
      cases running
      exact ⟨_, rfl⟩
    · rw [laterOthers thread reader, betweenOthers thread writer,
        readingOthers thread reader] at running
      cases running

/-- A `get` misses the cache, an update runs from start to end, and then the
`get` reads the store and caches what it finds. -/
theorem coherent_of_writer_undisturbed_sample :
    ∃ (later : Config Services World ℕ Request (Response Body))
      (missed updated served : List (Event Services)),
      (system Commons.standard aConfig reliable).Reaches (.initial aStoredWorld) later ∧
      missed ≠ [] ∧ served ≠ [] ∧
      later.trace = (served.map (.command 0)).reverse ++ ((updated.map (.command 1)).reverse ++
        .start 1 (.update anUpdatedPublicRemoteContentConfiguration aConfigurationId aCaller) ::
        ((missed.map (.command 0)).reverse ++ [.start 0 (.get aConfigurationId aCaller)])) ∧
      later.Answered 0 (.get aConfigurationId aCaller) (.successJson (.configuration
        (configurationResponse Commons.standard anUpdatedRCConfiguration))) ∧
      later.Answered 1
        (.update anUpdatedPublicRemoteContentConfiguration aConfigurationId aCaller)
        .successNoContent ∧
      (∃ configuration redisValue,
        later.world.cache (redisKey aConfigurationId) = some redisValue ∧
          later.world.store.findByConfigurationId aConfigurationId = some configuration ∧
          cachedConfiguration Commons.standard redisValue = some configuration) ∧
      ∀ configurationId redisValue,
        later.world.cache (redisKey configurationId) = some redisValue →
          ∃ configuration ∈ later.world.store.commits,
            configuration.configurationId = configurationId ∧
              cachedConfiguration Commons.standard redisValue = some configuration := by
  obtain ⟨rest, misses, continues⟩ := @advances_get_of_missed Commons.standard aConfig _ _ _
    aConfigurationId aCaller (connects permissive_reliable aStoredWorld)
    (readsCached permissive_reliable aStoredWorld rfl) (.inr aCaller_authorized)
  obtain ⟨waiting, reads, finishes⟩ :=
    continues (readsStored permissive_reliable anUpdatedWorld anUpdatedWorld_stored)
  obtain ⟨later, updated, reaches, laterWorld, quiescent, answered, updates, trace⟩ :=
    reaches_of_get_around_update misses (reads.runs
      (finishes (connects permissive_reliable _) (caches permissive_reliable _ _ _ _)))
  obtain ⟨current, authentic⟩ := coherent_of_writer_undisturbed Commons.standard aConfig
    aStoredWorld coherent_aStoredWorld later reaches quiescent
  have undisturbed : WriterUndisturbed aConfigurationId later.trace := by
    rw [trace]
    exact .inr ⟨fun ⟨other, _⟩ => other rfl, .inl ⟨rfl, trivial⟩⟩
  have cached : later.world.cache (redisKey aConfigurationId) =
      some (Commons.standard.stringify anUpdatedRCConfiguration) := by
    rw [laterWorld, World.cache_setCache_self]
  obtain ⟨configuration, stored, decodes⟩ := current _ _ cached undisturbed
  exact ⟨later, _, updated, _, reaches, by simp, by simp, trace, answered, updates,
    ⟨configuration, _, cached, stored, decodes⟩, authentic⟩

/-- An entry does fall behind: a `get` reads the store, an update runs from
start to end, and then the `get` caches what it has read. -/
theorem incoherent_after_overtaken_get :
    Coherent Commons.standard aStoredWorld ∧
      ∃ later : Config Services World ℕ Request (Response Body),
        (system Commons.standard aConfig reliable).Reaches (Config.initial aStoredWorld) later ∧
        later.Quiescent ∧ ¬ Coherent Commons.standard later.world := by
  obtain ⟨rest, misses, continues⟩ := @advances_get_of_missed Commons.standard aConfig _ _ _
    aConfigurationId aCaller (connects permissive_reliable aStoredWorld)
    (readsCached permissive_reliable aStoredWorld rfl) (.inr aCaller_authorized)
  obtain ⟨waiting, reads, finishes⟩ :=
    continues (readsStored permissive_reliable aStoredWorld aStoredWorld_stored)
  obtain ⟨later, _, reaches, laterWorld, quiescent, _⟩ :=
    reaches_of_get_around_update (misses.trans reads)
      (finishes (connects permissive_reliable _) (caches permissive_reliable _ _ _ _))
  refine ⟨coherent_aStoredWorld, later, reaches, quiescent, fun coherent => ?_⟩
  obtain ⟨configuration, stored, decodes⟩ := coherent aConfigurationId
    (Commons.standard.stringify aRetrievedRCConfiguration) (by rw [laterWorld]; simp)
  rw [cachedConfiguration_stringify] at decodes
  rw [laterWorld, World.store_setCache, anUpdatedWorld_stored, ← decodes] at stored
  exact anUpdated_ne (congrArg _ (Option.some.inj stored).symm)

end ServiceMessages.RemoteContent
