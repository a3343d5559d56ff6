import ServiceMessages.Interaction.Interpretation
import ServiceMessages.Interaction.Protocol

/-!
# Commands that are implemented by programs

A command of one system may be a program of another one, with commands of its
own that other threads can come between.  If every such program takes effect at
one point, the implemented system does nothing that the one with atomic commands
could not do.
-/

namespace Interaction

universe u w

variable {I J : Interface.{u}} {World Lower Request Result : Type u} {Thread : Type w}

/-- A program that implements a command takes effect once: by one of its own
commands, or at the end if the command may leave the world as it is.  What it has
replied to the command is remembered from then on. -/
def Linearizes (project : Lower → World) (exec : Semantics I World)
    (lowerExec : Semantics J Lower) (command : I.Command) :
    Option (I.Reply command) → Program J (I.Reply command) → Prop
  | none, .done reply => ∀ world, exec world command reply world
  | some acted, .done reply => reply = acted
  | none, .call lowerCommand next => ∀ world reply world',
      lowerExec world lowerCommand reply world' →
        project world' = project world ∧
            Linearizes project exec lowerExec command none (next reply) ∨
          ∃ acted, exec (project world) command acted (project world') ∧
            Linearizes project exec lowerExec command (some acted) (next reply)
  | some acted, .call lowerCommand next => ∀ world reply world',
      lowerExec world lowerCommand reply world' →
        project world' = project world ∧
          Linearizes project exec lowerExec command (some acted) (next reply)

/-- A system whose commands are implemented by programs of another one, perhaps
differently for every request. -/
structure Layer (abstract : System I World Request Result) (lower : System J Lower Request Result)
    (project : Lower → World)
    (implement : Request → ∀ command, Program J (I.Reply command)) : Prop where
  handler : ∀ request,
    lower.handler request = (abstract.handler request).interpret (implement request)
  drift : ∀ world world', lower.drift world world' →
    abstract.drift (project world) (project world') ∨ project world' = project world
  linearizes : ∀ request command,
    Linearizes project abstract.exec lower.exec command none (implement request command)

section Layer

variable {abstract : System I World Request Result} {lower : System J Lower Request Result}
  {project : Lower → World} {implement : Request → ∀ command, Program J (I.Reply command)}

/-- What is left of a program and of its implementation: both are done, or the
implementation of the next command is at work, before or after it took effect. -/
inductive Tracks (project : Lower → World) (exec : Semantics I World)
    (lowerExec : Semantics J Lower) (implement : ∀ command, Program J (I.Reply command)) :
    Program I Result → Program J Result → Prop where
  | done (result) : Tracks project exec lowerExec implement (.done result) (.done result)
  | before {command lowerCommand} (next : I.Reply command → Program I Result)
      (rest : J.Reply lowerCommand → Program J (I.Reply command)) :
      Linearizes project exec lowerExec command none (.call lowerCommand rest) →
      Tracks project exec lowerExec implement (.call command next)
        (.call lowerCommand fun reply =>
          (rest reply).bind fun reply => (next reply).interpret implement)
  | after {command lowerCommand} (next : I.Reply command → Program I Result)
      (rest : J.Reply lowerCommand → Program J (I.Reply command)) (acted : I.Reply command) :
      Linearizes project exec lowerExec command (some acted) (.call lowerCommand rest) →
      Tracks project exec lowerExec implement (next acted)
        (.call lowerCommand fun reply =>
          (rest reply).bind fun reply => (next reply).interpret implement)

/-- A configuration of the one system stands for one of the other. -/
structure Simulates (project : Lower → World) (exec : Semantics I World)
    (lowerExec : Semantics J Lower)
    (implement : Request → ∀ command, Program J (I.Reply command))
    (upper : Config I World Thread Request Result)
    (below : Config J Lower Thread Request Result) : Prop where
  world : project below.world = upper.world
  threads : ∀ thread,
    match below.threads thread with
    | none => upper.threads thread = none
    | some (request, program) =>
        ∃ above, upper.threads thread = some (request, above) ∧
          Tracks project exec lowerExec (implement request) above program

variable [DecidableEq Thread]

/-- One thread may go on alone, without any effect, until its program is
tracked by the given one. -/
def Settles (abstract : System I World Request Result) (lower : System J Lower Request Result)
    (project : Lower → World) (implement : Request → ∀ command, Program J (I.Reply command))
    (upper : Config I World Thread Request Result) (thread : Thread) (request : Request)
    (program : Program J Result) : Prop :=
  ∃ later above, abstract.Reaches upper later ∧ later.world = upper.world ∧
    later.threads thread = some (request, above) ∧
    Tracks project abstract.exec lower.exec (implement request) above program ∧
    ∀ other, other ≠ thread → later.threads other = upper.threads other

variable {upper : Config I World Thread Request Result} {thread : Thread} {request : Request}

theorem Settles.of_command {program : Program J Result} {command : I.Command}
    {next : I.Reply command → Program I Result} {reply : I.Reply command}
    (running : upper.threads thread = some (request, .call command next))
    (executed : abstract.exec upper.world command reply upper.world)
    (settles : Settles abstract lower project implement
      { world := upper.world
        threads := Function.update upper.threads thread (some (request, next reply))
        trace := .command thread ⟨command, reply⟩ :: upper.trace } thread request program) :
    Settles abstract lower project implement upper thread request program := by
  have step := System.Step.command thread request command next reply upper.world running executed
  obtain ⟨later, above, reaches, world, here, tracks, others⟩ := settles
  refine ⟨later, above, .head step reaches, world, here, tracks, ?_⟩
  intro other distinct
  rw [others other distinct]
  exact Function.update_of_ne distinct ..

variable {below below' : Config J Lower Thread Request Result}

theorem Simulates.of_settles
    (simulates : Simulates project abstract.exec lower.exec implement upper below)
    {middle : Config I World Thread Request Result} {lowerWorld : Lower}
    {program : Program J Result} {trace : List (Label J Thread Request)}
    (reaches : abstract.Reaches upper middle) (world : project lowerWorld = middle.world)
    (others : ∀ other, other ≠ thread → middle.threads other = upper.threads other)
    (settles : Settles abstract lower project implement middle thread request program) :
    ∃ upper', abstract.Reaches upper upper' ∧
      Simulates project abstract.exec lower.exec implement upper'
        { world := lowerWorld
          threads := Function.update below.threads thread (some (request, program))
          trace := trace } := by
  obtain ⟨later, above, goesOn, same, here, tracks, unchanged⟩ := settles
  refine ⟨later, reaches.trans goesOn, world.trans same.symm, ?_⟩
  intro other
  by_cases own : other = thread
  · subst own
    simpa using ⟨above, here, tracks⟩
  · have before := simulates.threads other
    rw [← others other own, ← unchanged other own] at before
    simpa [Function.update_of_ne own] using before

namespace Layer

variable (layer : Layer abstract lower project implement)

include layer

theorem settles {program : Program I Result}
    (running : upper.threads thread = some (request, program)) :
    Settles abstract lower project implement upper thread request
      (program.interpret (implement request)) := by
  induction program generalizing upper with
  | done result =>
      exact ⟨upper, _, .refl, rfl, running, .done result, fun _ _ => rfl⟩
  | call command next inductionHypothesis =>
      have linearizes := layer.linearizes request command
      rw [Program.interpret]
      cases implemented : implement request command with
      | call lowerCommand rest =>
          rw [implemented] at linearizes
          exact ⟨upper, _, .refl, rfl, running, .before next rest linearizes, fun _ _ => rfl⟩
      | done reply =>
          rw [implemented] at linearizes
          exact .of_command running (linearizes upper.world)
            (inductionHypothesis reply (Function.update_self ..))

theorem settles_before {command : I.Command} {next : I.Reply command → Program I Result}
    {rest : Program J (I.Reply command)}
    (linearizes : Linearizes project abstract.exec lower.exec command none rest)
    (running : upper.threads thread = some (request, .call command next)) :
    Settles abstract lower project implement upper thread request
      (rest.bind fun reply => (next reply).interpret (implement request)) := by
  cases rest with
  | call lowerCommand rest =>
      exact ⟨upper, _, .refl, rfl, running, .before next rest linearizes, fun _ _ => rfl⟩
  | done reply =>
      exact .of_command running (linearizes upper.world)
        (layer.settles (Function.update_self ..))

theorem settles_after {command : I.Command} {next : I.Reply command → Program I Result}
    {acted : I.Reply command} {rest : Program J (I.Reply command)}
    (linearizes : Linearizes project abstract.exec lower.exec command (some acted) rest)
    (running : upper.threads thread = some (request, next acted)) :
    Settles abstract lower project implement upper thread request
      (rest.bind fun reply => (next reply).interpret (implement request)) := by
  cases rest with
  | call lowerCommand rest =>
      exact ⟨upper, _, .refl, rfl, running, .after next rest acted linearizes, fun _ _ => rfl⟩
  | done reply =>
      obtain rfl : reply = acted := linearizes
      exact layer.settles running

/-- The step lemma: the one system follows every step of the other. -/
theorem step (simulates : Simulates project abstract.exec lower.exec implement upper below)
    (step : lower.Step below below') :
    ∃ upper', abstract.Reaches upper upper' ∧
      Simulates project abstract.exec lower.exec implement upper' below' := by
  cases step with
  | start thread request fresh =>
      have absent : upper.threads thread = none := by
        have before := simulates.threads thread
        rwa [fresh] at before
      rw [layer.handler]
      exact simulates.of_settles (.single (.start thread request absent))
        simulates.world (fun other distinct => Function.update_of_ne distinct ..)
        (layer.settles (Function.update_self ..))
  | drift world drifted =>
      rcases layer.drift _ _ drifted with follows | unchanged
      · rw [simulates.world] at follows
        exact ⟨_, .single (.drift _ follows), rfl, simulates.threads⟩
      · exact ⟨upper, .refl, unchanged.trans simulates.world, simulates.threads⟩
  | command thread request lowerCommand lowerNext reply world running executed =>
      have before := simulates.threads thread
      rw [running] at before
      obtain ⟨above, here, tracks⟩ := before
      cases tracks with
      | before next rest linearizes =>
          rcases linearizes _ _ _ executed with ⟨unchanged, remains⟩ | ⟨acted, effect, remains⟩
          · exact simulates.of_settles .refl (unchanged.trans simulates.world)
              (fun _ _ => rfl) (layer.settles_before remains here)
          · rw [simulates.world] at effect
            exact simulates.of_settles
              (.single (.command thread request _ next acted _ here effect)) rfl
              (fun other distinct => Function.update_of_ne distinct ..)
              (layer.settles_after remains (Function.update_self ..))
      | after next rest acted linearizes =>
          obtain ⟨unchanged, remains⟩ := linearizes _ _ _ executed
          exact simulates.of_settles .refl (unchanged.trans simulates.world)
            (fun _ _ => rfl) (layer.settles_after remains here)

/-- The run lemma: whatever the implemented system does, the one with atomic
commands can do as well, with the same world and the same answers. -/
theorem reaches {first : Lower} (reaches : lower.Reaches (.initial first) below) :
    ∃ upper : Config I World Thread Request Result,
      abstract.Reaches (.initial (project first)) upper ∧ upper.world = project below.world ∧
        ∀ thread request result, below.Answered thread request result →
          upper.Answered thread request result := by
  obtain ⟨upper, follows, simulates⟩ : ∃ upper,
      abstract.Reaches (.initial (project first)) upper ∧
        Simulates project abstract.exec lower.exec implement upper below := by
    induction reaches with
    | refl => exact ⟨_, .refl, rfl, fun _ => rfl⟩
    | tail _ step inductionHypothesis =>
        obtain ⟨upper, follows, simulates⟩ := inductionHypothesis
        obtain ⟨upper', goesOn, simulates⟩ := layer.step simulates step
        exact ⟨upper', follows.trans goesOn, simulates⟩
  refine ⟨upper, follows, simulates.world.symm, ?_⟩
  intro thread request result answered
  have here := simulates.threads thread
  rw [answered] at here
  obtain ⟨above, running, tracks⟩ := here
  cases tracks
  exact running

end Layer

end Layer

/-- What every implementation keeps, every program over the commands keeps. -/
theorem Runs.interpret {A : Type u} {implement : ∀ command, Program J (I.Reply command)}
    {exec : Semantics J Lower} (holds : Lower → Prop)
    (implemented : ∀ command world events reply world', holds world →
      Runs exec world (implement command) events reply world' → holds world')
    {program : Program I A} {world final : Lower} {events : List (Event J)} {result : A}
    (runs : Runs exec world (program.interpret implement) events result final)
    (initially : holds world) : holds final := by
  induction program generalizing world events with
  | done returned =>
      obtain ⟨-, -, rfl⟩ := runs_done_iff.mp runs
      exact initially
  | call command next inductionHypothesis =>
      rw [Program.interpret, runs_bind_iff] at runs
      obtain ⟨_, _, middle, reply, first, second, rfl⟩ := runs
      exact inductionHypothesis reply second (implemented command _ _ _ _ initially first)

theorem Protocol.Conforms.interpret_congr {A Phase : Type u} {protocol : Protocol I Request Phase}
    {post : Phase → A → Prop} {implement other : ∀ command, Program J (I.Reply command)}
    {program : Program I A} {phase : Phase}
    (conforms : protocol.Conforms (fun _ => True) post program phase)
    (agree : ∀ later command, protocol.request later = protocol.request phase →
      protocol.allows later command → implement command = other command) :
    program.interpret implement = program.interpret other := by
  induction program generalizing phase with
  | done result => rfl
  | call command next inductionHypothesis =>
      obtain ⟨allowed, conforms⟩ := conforms
      rw [Program.interpret, Program.interpret, agree phase command rfl allowed]
      congr 1
      funext reply
      apply inductionHypothesis reply (conforms reply trivial)
      rw [protocol.request_advance]
      exact agree

end Interaction
