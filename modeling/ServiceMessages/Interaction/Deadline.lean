import ServiceMessages.Interaction.Protocol

/-!
# Requests with a deadline

Interleavings over a world that has a clock.  Commands take no time, the world
drifts from one to the next, and no request is in flight longer than a limit.
Every request then acts within a known interval, so an invariant of a phase may
speak about the time at which its request was started.
-/

namespace Interaction

universe u v w

variable {I : Interface.{u}} {World Request Result Phase : Type v} {Thread : Type w}
  [DecidableEq Thread]

/-- The runs in which no request is in flight longer than a limit, with the
times at which requests were started. -/
inductive Punctual (system : System I World Request Result) (clock : World → ℕ) (limit : ℕ)
    (first : World) : Config I World Thread Request Result → (Thread → ℕ) → Prop where
  | initial : Punctual system clock limit first (.initial first) (fun _ => 0)
  | start {config began} (thread request) :
      Punctual system clock limit first config began →
      config.threads thread = none →
      Punctual system clock limit first
        { world := config.world
          threads := Function.update config.threads thread
            (some (request, system.handler request))
          trace := .start thread request :: config.trace }
        (Function.update began thread (clock config.world))
  | command {config began} (thread request command next reply world) :
      Punctual system clock limit first config began →
      config.threads thread = some (request, .call command next) →
      system.exec config.world command reply world →
      Punctual system clock limit first
        { world := world
          threads := Function.update config.threads thread (some (request, next reply))
          trace := .command thread ⟨command, reply⟩ :: config.trace }
        began
  | drift {config began} (world) :
      Punctual system clock limit first config began →
      system.drift config.world world →
      (∀ thread request command next, config.threads thread = some (request, .call command next) →
        clock world ≤ began thread + limit) →
      Punctual system clock limit first
        { config with world := world, trace := .drift :: config.trace } began

namespace Punctual

variable {system : System I World Request Result} {clock : World → ℕ} {limit : ℕ} {first : World}
  {config : Config I World Thread Request Result} {began : Thread → ℕ}

theorem reaches (punctual : Punctual system clock limit first config began) :
    system.Reaches (.initial first) config := by
  induction punctual with
  | initial => exact .refl
  | start thread request _ absent inductionHypothesis =>
      exact inductionHypothesis.tail (.start thread request absent)
  | command thread request command next reply world _ running executed inductionHypothesis =>
      exact inductionHypothesis.tail (.command thread request command next reply world running
        executed)
  | drift world _ drifted _ inductionHypothesis =>
      exact inductionHypothesis.tail (.drift world drifted)

theorem advances (punctual : Punctual system clock limit first config began)
    {thread : Thread} {request : Request} {world final : World}
    {program rest : Program I Result} {events : List (Event I)}
    (advances : Advances system.exec world program events rest final)
    (here : config.world = world) (running : config.threads thread = some (request, program)) :
    ∃ later, Punctual system clock limit first later began ∧ later.world = final ∧
      later.threads thread = some (request, rest) ∧
      (∀ other, other ≠ thread → later.threads other = config.threads other) ∧
      later.trace = (events.map (.command thread)).reverse ++ config.trace := by
  induction advances generalizing config with
  | refl => exact ⟨config, punctual, here, running, fun _ _ => rfl, by simp⟩
  | call executed _ inductionHypothesis =>
      subst here
      obtain ⟨later, reached, arrived, remaining, others, trace⟩ := inductionHypothesis
        (.command thread request _ _ _ _ punctual running executed) rfl (Function.update_self ..)
      refine ⟨later, reached, arrived, remaining, ?_, by simp [trace]⟩
      intro other distinct
      rw [others other distinct]
      exact Function.update_of_ne distinct ..

theorem serves (punctual : Punctual system clock limit first config began) (thread : Thread)
    (request : Request) {final : World} {events : List (Event I)} {result : Result}
    (runs : Runs system.exec config.world (system.handler request) events result final)
    (fresh : config.threads thread = none) :
    ∃ later, Punctual system clock limit first later
        (Function.update began thread (clock config.world)) ∧
      later.world = final ∧ later.Answered thread request result ∧
      (∀ other, other ≠ thread → later.threads other = config.threads other) ∧
      later.trace =
        (events.map (.command thread)).reverse ++ .start thread request :: config.trace := by
  obtain ⟨later, reached, arrived, answered, others, trace⟩ :=
    (punctual.start thread request fresh).advances runs.advances rfl (Function.update_self ..)
  refine ⟨later, reached, arrived, answered, ?_, trace⟩
  intro other distinct
  rw [others other distinct]
  exact Function.update_of_ne distinct ..

section Clock

variable (timeless : ∀ world command reply world',
    system.exec world command reply world' → clock world' = clock world)
  (onward : ∀ world world', system.drift world world' → clock world ≤ clock world')

include timeless onward

/-- A request that is in flight was started before now, and not longer ago
than the limit. -/
theorem bounds (punctual : Punctual system clock limit first config began) {thread : Thread}
    {request : Request} {program : Program I Result}
    (running : config.threads thread = some (request, program)) :
    began thread ≤ clock config.world ∧
      ∀ command next, program = .call command next →
        clock config.world ≤ began thread + limit := by
  induction punctual generalizing thread request program with
  | initial => cases running
  | @start config began started newRequest _ absent inductionHypothesis =>
      by_cases same : thread = started
      · subst same
        simp
      · simp only [Function.update_of_ne same] at running ⊢
        exact inductionHypothesis running
  | @command config began executing served command next reply world _ before executed
      inductionHypothesis =>
      simp only [timeless _ _ _ _ executed]
      by_cases same : thread = executing
      · subst same
        obtain ⟨started, inTime⟩ := inductionHypothesis before
        exact ⟨started, fun _ _ _ => inTime _ _ rfl⟩
      · simp only [Function.update_of_ne same] at running
        exact inductionHypothesis running
  | @drift config began world _ drifted inTime inductionHypothesis =>
      obtain ⟨started, -⟩ := inductionHypothesis running
      refine ⟨Nat.le_trans started (onward _ _ drifted), ?_⟩
      rintro command next rfl
      exact inTime thread request command next running

open Protocol in
/-- The thread-modular rule for runs with a deadline: what a phase relies on may
depend on the time at which its request was started. -/
theorem modular_invariant {protocol : Protocol I Request Phase} {permitted : Event I → Prop}
    {post : Request → Phase → Result → Prop}
    (permits : ∀ world command reply world',
      system.exec world command reply world' → permitted ⟨command, reply⟩)
    (handlers : ∀ request, protocol.Conforms permitted (post request)
      (system.handler request) (protocol.initial request))
    (shared : World → Prop) (own : World → ℕ → Phase → Prop)
    (starts : ∀ world request, shared world → own world (clock world) (protocol.initial request))
    (executes : ∀ world start phase command reply world', shared world → own world start phase →
      start ≤ clock world → clock world ≤ start + limit → protocol.allows phase command →
      system.exec world command reply world' →
      shared world' ∧ own world' start (protocol.advance phase ⟨command, reply⟩) ∧
        ∀ otherStart other, own world otherStart other → own world' otherStart other)
    (drifts : ∀ world world', shared world → system.drift world world' →
      shared world' ∧ ∀ start phase, own world start phase → own world' start phase)
    (initially : shared first) (punctual : Punctual system clock limit first config began) :
    shared config.world ∧
      ∀ thread phase, protocol.phaseOf config.trace thread = some phase →
        own config.world (began thread) phase := by
  induction punctual with
  | initial => exact ⟨initially, by simp [Config.initial]⟩
  | @start config began started request _ absent inductionHypothesis =>
      obtain ⟨sharedHolds, ownHolds⟩ := inductionHypothesis
      refine ⟨sharedHolds, fun thread phase here => ?_⟩
      rcases phaseOf_start_cases here with ⟨rfl, rfl⟩ | ⟨distinct, here⟩
      · simpa using starts config.world request sharedHolds
      · rw [Function.update_of_ne distinct]
        exact ownHolds thread phase here
  | @command config began executing request command next reply world before running executed
      inductionHypothesis =>
      obtain ⟨sharedHolds, ownHolds⟩ := inductionHypothesis
      obtain ⟨-, governs⟩ := (governs_initial post first).reaches permits handlers before.reaches
      obtain ⟨phase, known, -, allowed, -⟩ := governs.conforms running
      obtain ⟨started, inTime⟩ := before.bounds timeless onward running
      obtain ⟨sharedAfter, ownAfter, stable⟩ := executes _ _ _ _ _ _ sharedHolds
        (ownHolds _ _ known) started (inTime _ _ rfl) allowed executed
      refine ⟨sharedAfter, fun thread later here => ?_⟩
      rcases phaseOf_command_cases here with ⟨rfl, other, knownToo, rfl⟩ | ⟨_, here⟩
      · rw [known] at knownToo
        cases knownToo
        exact ownAfter
      · exact stable _ _ (ownHolds thread later here)
  | @drift config began world _ drifted _ inductionHypothesis =>
      obtain ⟨sharedHolds, ownHolds⟩ := inductionHypothesis
      obtain ⟨sharedAfter, stable⟩ := drifts _ _ sharedHolds drifted
      exact ⟨sharedAfter, fun thread phase here => stable _ _ (ownHolds thread phase here)⟩

end Clock

end Punctual

end Interaction
