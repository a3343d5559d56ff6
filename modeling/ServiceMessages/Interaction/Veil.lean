import ServiceMessages.Interaction.Interleaving
import ServiceMessages.Interaction.Translation

/-!
# Systems behind a veil

A system serves its requests behind a veil when another system, which is only
shown a part of every request, serves them in its place: whatever it issues is
translated by the request it was not shown.  The two go through the same
schedules, so that the hidden part of the requests is in nothing but the
translated commands.
-/

namespace Interaction

universe u w

variable {I J : Interface.{u}} {World Request View Result : Type u} {Thread : Type w}

def Translation.Relates (translation : Translation I J) (issued : Event I)
    (executed : Event J) : Prop :=
  ∃ reply, executed = ⟨translation.command issued.command, reply⟩ ∧
    issued.reply = translation.reply issued.command reply

/-- What is shown of a request, what its commands stand for, and which answers
count as the same. -/
structure Veil (I J : Interface.{u}) (Request View Result : Type u) where
  view : Request → View
  translation : Request → Translation I J
  Similar : Result → Result → Prop

namespace Veil

variable (veil : Veil I J Request View Result)

inductive Covers (request : Request) : Program J Result → Program I Result → Prop where
  | translated (program) :
      Covers request (program.translate (veil.translation request)) program
  | answered {result shown} :
      veil.Similar result shown → Covers request (.done result) (.done shown)

inductive Matches :
    Option (Request × Program J Result) → Option (View × Program I Result) → Prop where
  | idle : Matches none none
  | running {request program shown} :
      veil.Covers request program shown →
      Matches (some (request, program)) (some (veil.view request, shown))

/-- A schedule and the schedule behind the veil.  Every command is translated
by the request of its own thread. -/
inductive Hides : List (Label J Thread Request) → List (Label I Thread View) → Prop where
  | nil : Hides [] []
  | start {trace shown} (thread request) :
      Hides trace shown →
      Hides (.start thread request :: trace) (.start thread (veil.view request) :: shown)
  | command {trace shown thread request issued executed} :
      .start thread request ∈ trace →
      (veil.translation request).Relates issued executed →
      Hides trace shown →
      Hides (.command thread executed :: trace) (.command thread issued :: shown)
  | drift {trace shown} : Hides trace shown → Hides (.drift :: trace) (.drift :: shown)

/-- The one system can be put in the place of the other. -/
structure Serves (system : System J World Request Result) (blind : System I World View Result) :
    Prop where
  handler : ∀ request,
    veil.Covers request (system.handler request) (blind.handler (veil.view request))
  exec : ∀ request world command reply world',
    system.exec world ((veil.translation request).command command) reply world' →
      blind.exec world command ((veil.translation request).reply command reply) world'
  drift : ∀ world world', system.drift world world' → blind.drift world world'

/-- The same moment, with and without the veil. -/
structure Behind (config : Config J World Thread Request Result)
    (shown : Config I World Thread View Result) : Prop where
  world : shown.world = config.world
  threads : ∀ thread, veil.Matches (config.threads thread) (shown.threads thread)
  trace : veil.Hides config.trace shown.trace
  started : ∀ thread request program, config.threads thread = some (request, program) →
    .start thread request ∈ config.trace

variable {veil} {config later : Config J World Thread Request Result}
  {shown : Config I World Thread View Result}

theorem behind_initial (world : World) :
    veil.Behind (Config.initial world : Config J World Thread Request Result) (.initial world) where
  world := rfl
  threads := fun _ => .idle
  trace := .nil
  started := fun _ _ _ running => nomatch running

theorem Covers.exists_of_call {request : Request} {command : J.Command}
    {next : J.Reply command → Program J Result} {shown : Program I Result}
    (covers : veil.Covers request (.call command next) shown) :
    ∃ issued rest, shown = .call issued rest ∧
      ∃ same : command = (veil.translation request).command issued,
        ∀ reply, next (same ▸ reply) =
          (rest ((veil.translation request).reply issued reply)).translate
            (veil.translation request) := by
  generalize whole : Program.call command next = program at covers
  cases covers with
  | answered => cases whole
  | translated shown =>
      cases shown with
      | done => cases whole
      | call issued rest =>
          cases whole
          exact ⟨issued, rest, rfl, rfl, fun _ => rfl⟩

variable [DecidableEq Thread]

theorem Behind.updated (behind : veil.Behind config shown) {executing : Thread}
    {started : Option (Request × Program J Result)} {running : Option (View × Program I Result)}
    (here : veil.Matches started running) (thread : Thread) :
    veil.Matches (Function.update config.threads executing started thread)
      (Function.update shown.threads executing running thread) := by
  by_cases same : thread = executing
  · subst same
    simpa using here
  · simpa [Function.update_of_ne same] using behind.threads thread

theorem Behind.started_update (behind : veil.Behind config shown) {executing : Thread}
    {request : Request} {program : Program J Result} {trace : List (Label J Thread Request)}
    (here : .start executing request ∈ trace) (kept : ∀ label ∈ config.trace, label ∈ trace)
    {thread : Thread} {asked : Request} {rest : Program J Result}
    (running : Function.update config.threads executing (some (request, program)) thread =
      some (asked, rest)) :
    .start thread asked ∈ trace := by
  by_cases same : thread = executing
  · subst same
    rw [Function.update_self] at running
    cases running
    exact here
  · rw [Function.update_of_ne same] at running
    exact kept _ (behind.started thread asked rest running)

variable {system : System J World Request Result} {blind : System I World View Result}

theorem Behind.step (serves : veil.Serves system blind) (behind : veil.Behind config shown)
    (step : system.Step config later) :
    ∃ shown', blind.Step shown shown' ∧ veil.Behind later shown' := by
  cases step with
  | start thread request fresh =>
      have here := behind.threads thread
      rw [fresh] at here
      generalize matched : shown.threads thread = view at here
      cases here
      refine ⟨_, .start thread (veil.view request) matched, behind.world, ?_, ?_, ?_⟩
      · exact behind.updated (.running (serves.handler request))
      · exact .start thread request behind.trace
      · intro other asked program
        apply behind.started_update
        · exact List.mem_cons_self
        · exact fun label => List.mem_cons_of_mem _
  | command thread request command next reply world running executed =>
      have here := behind.threads thread
      rw [running] at here
      generalize matched : shown.threads thread = view at here
      cases here with
      | running covers =>
          obtain ⟨issued, rest, rfl, rfl, goesOn⟩ := covers.exists_of_call
          have answered := serves.exec request _ issued reply world executed
          rw [← behind.world] at answered
          have known := behind.started thread request _ running
          refine ⟨_, .command thread _ issued rest _ world matched answered, rfl, ?_, ?_, ?_⟩
          · apply behind.updated
            rw [goesOn]
            exact .running (.translated _)
          · exact .command known ⟨reply, rfl, rfl⟩ behind.trace
          · intro other asked program
            apply behind.started_update
            · exact List.mem_cons_of_mem _ known
            · exact fun label => List.mem_cons_of_mem _
  | drift world drifted =>
      have alike := serves.drift _ _ drifted
      rw [← behind.world] at alike
      refine ⟨_, .drift world alike, rfl, behind.threads, .drift behind.trace, ?_⟩
      intro thread request program running
      exact List.mem_cons_of_mem _ (behind.started thread request program running)

/-- Whatever is reached is reached behind the veil. -/
theorem Behind.reaches (serves : veil.Serves system blind) (behind : veil.Behind config shown)
    (reaches : system.Reaches config later) :
    ∃ shown', blind.Reaches shown shown' ∧ veil.Behind later shown' := by
  induction reaches with
  | refl => exact ⟨shown, .refl, behind⟩
  | tail _ step inductionHypothesis =>
      obtain ⟨middle, reached, behindMiddle⟩ := inductionHypothesis
      obtain ⟨last, goesOn, behindLast⟩ := behindMiddle.step serves step
      exact ⟨last, reached.tail goesOn, behindLast⟩

end Veil

end Interaction
