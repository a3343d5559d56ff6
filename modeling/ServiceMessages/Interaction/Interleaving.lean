import Mathlib.Logic.Function.Basic
import Mathlib.Logic.Relation
import ServiceMessages.Interaction.Program

/-!
# Interleaved execution

Any number of requests share one world.  Every request is served by its own
program, and a step of the system starts a request, executes the next command
of one started program, or lets the world drift by itself.  A configuration
records the whole schedule, newest entry first, so that conditions on the
order of commands are conditions on its trace.
-/

namespace Interaction

universe u v w

/-- A world with its commands, what it may do by itself, and the programs that
serve the requests. -/
structure System (I : Interface.{u}) (World Request Result : Type v) where
  exec : Semantics I World
  drift : World → World → Prop
  handler : Request → Program I Result

inductive Label (I : Interface.{u}) (Thread : Type w) (Request : Type v) where
  | start (thread : Thread) (request : Request)
  | command (thread : Thread) (event : Event I)
  | drift

structure Config (I : Interface.{u}) (World : Type v) (Thread : Type w)
    (Request Result : Type v) where
  world : World
  threads : Thread → Option (Request × Program I Result)
  trace : List (Label I Thread Request)

variable {I : Interface.{u}} {World Request Result : Type v} {Thread : Type w}

namespace Config

def initial (world : World) : Config I World Thread Request Result where
  world := world
  threads := fun _ => none
  trace := []

def Answered (config : Config I World Thread Request Result) (thread : Thread)
    (request : Request) (result : Result) : Prop :=
  config.threads thread = some (request, .done result)

def Quiescent (config : Config I World Thread Request Result) : Prop :=
  ∀ thread request program, config.threads thread = some (request, program) →
    ∃ result, program = .done result

end Config

namespace System

variable [DecidableEq Thread]

inductive Step (system : System I World Request Result) :
    Config I World Thread Request Result → Config I World Thread Request Result → Prop where
  | start {config} (thread request) :
      config.threads thread = none →
      Step system config
        { world := config.world
          threads := Function.update config.threads thread
            (some (request, system.handler request))
          trace := .start thread request :: config.trace }
  | command {config} (thread request command next reply world) :
      config.threads thread = some (request, .call command next) →
      system.exec config.world command reply world →
      Step system config
        { world := world
          threads := Function.update config.threads thread (some (request, next reply))
          trace := .command thread ⟨command, reply⟩ :: config.trace }
  | drift {config} (world) :
      system.drift config.world world →
      Step system config { config with world := world, trace := .drift :: config.trace }

abbrev Reaches (system : System I World Request Result) :
    Config I World Thread Request Result → Config I World Thread Request Result → Prop :=
  Relation.ReflTransGen system.Step

theorem Reaches.answered {system : System I World Request Result}
    {config later : Config I World Thread Request Result}
    (reaches : system.Reaches config later) {thread : Thread} {request : Request}
    {result : Result} (answered : config.Answered thread request result) :
    later.Answered thread request result := by
  induction reaches with
  | refl => exact answered
  | tail _ step inductionHypothesis =>
      unfold Config.Answered at inductionHypothesis ⊢
      cases step with
      | start other _ absent =>
          have distinct : thread ≠ other := by
            rintro rfl
            simp [inductionHypothesis] at absent
          simpa [Function.update_of_ne distinct] using inductionHypothesis
      | command other _ _ _ _ _ running _ =>
          have distinct : thread ≠ other := by
            rintro rfl
            simp [inductionHypothesis] at running
          simpa [Function.update_of_ne distinct] using inductionHypothesis
      | drift => exact inductionHypothesis

theorem reaches_of_advances (system : System I World Request Result)
    {thread : Thread} {request : Request} {world final : World}
    {program rest : Program I Result} {events : List (Event I)}
    (advances : Advances system.exec world program events rest final)
    (config : Config I World Thread Request Result) (here : config.world = world)
    (running : config.threads thread = some (request, program)) :
    ∃ later, system.Reaches config later ∧ later.world = final ∧
      later.threads thread = some (request, rest) ∧
      (∀ other, other ≠ thread → later.threads other = config.threads other) ∧
      later.trace = (events.map (.command thread)).reverse ++ config.trace := by
  induction advances generalizing config with
  | refl => exact ⟨config, .refl, here, running, fun _ _ => rfl, by simp⟩
  | @call _ command next reply world' _ _ _ executed _ inductionHypothesis =>
      subst here
      have step := Step.command thread request command next reply world' running executed
      obtain ⟨later, reaches, arrived, remaining, others, trace⟩ :=
        inductionHypothesis
          { world := world'
            threads := Function.update config.threads thread (some (request, next reply))
            trace := .command thread ⟨command, reply⟩ :: config.trace }
          rfl (Function.update_self ..)
      refine ⟨later, .head step reaches, arrived, remaining, ?_, ?_⟩
      · intro other distinct
        rw [others other distinct]
        exact Function.update_of_ne distinct ..
      · simp [trace]

theorem reaches_of_start (system : System I World Request Result) (thread : Thread)
    (request : Request) {final : World} {rest : Program I Result}
    {events : List (Event I)} (config : Config I World Thread Request Result)
    (advances : Advances system.exec config.world (system.handler request) events rest final)
    (fresh : config.threads thread = none) :
    ∃ later, system.Reaches config later ∧ later.world = final ∧
      later.threads thread = some (request, rest) ∧
      (∀ other, other ≠ thread → later.threads other = config.threads other) ∧
      later.trace =
        (events.map (.command thread)).reverse ++ .start thread request :: config.trace := by
  have started : system.Step config _ := .start thread request fresh
  obtain ⟨later, reaches, arrived, remaining, others, trace⟩ :=
    system.reaches_of_advances advances
      { world := config.world
        threads := Function.update config.threads thread
          (some (request, system.handler request))
        trace := .start thread request :: config.trace }
      rfl (Function.update_self ..)
  refine ⟨later, .head started reaches, arrived, remaining, ?_, trace⟩
  intro other distinct
  rw [others other distinct]
  exact Function.update_of_ne distinct ..

/-- Requests served one after the other, each from start to end, with the
world drifting only between them.  Oldest request first. -/
inductive Serial (system : System I World Request Result) :
    World → List (Request × Result) → World → Prop where
  | idle {world} : Serial system world [] world
  | drift {world world' history final} :
      system.drift world world' →
      Serial system world' history final →
      Serial system world history final
  | serve {world request events result world' history final} :
      Runs system.exec world (system.handler request) events result world' →
      Serial system world' history final →
      Serial system world ((request, result) :: history) final

/-- What is reached by serving requests one after the other is reached by
interleaving them. -/
theorem Serial.reaches {system : System I World Request Result} {world final : World}
    {history : List (Request × Result)} (serial : system.Serial world history final)
    (config : Config I World ℕ Request Result) (here : config.world = world)
    (bound : ℕ) (fresh : ∀ thread, bound ≤ thread → config.threads thread = none) :
    ∃ later : Config I World ℕ Request Result,
      system.Reaches config later ∧ later.world = final := by
  induction serial generalizing config bound with
  | idle => exact ⟨config, .refl, here⟩
  | @drift _ world' _ _ drifted _ inductionHypothesis =>
      subst here
      obtain ⟨later, reaches, arrived⟩ := inductionHypothesis
        { config with world := world', trace := .drift :: config.trace } rfl bound fresh
      exact ⟨later, .head (.drift world' drifted) reaches, arrived⟩
  | serve runs _ inductionHypothesis =>
      subst here
      obtain ⟨middle, served, arrived, _, others, _⟩ :=
        system.reaches_of_start bound _ config runs.advances (fresh bound (Nat.le_refl bound))
      have unused : ∀ thread, bound + 1 ≤ thread → middle.threads thread = none := by
        intro thread later
        rw [others thread (by omega)]
        exact fresh thread (by omega)
      obtain ⟨last, reaches, reached⟩ := inductionHypothesis middle arrived (bound + 1) unused
      exact ⟨last, served.trans reaches, reached⟩

end System

end Interaction
