import Mathlib.Logic.Relation
import ServiceMessages.Interaction.Interleaving

/-!
# Requests that are examined first

What stands before a system examines every raw request: it answers it at once,
or hands a request to the system and wraps the result.  Whatever requests do on
a guarded system, those that were admitted do on the system behind the guard.
Requests that are answered without a command can be left out of any schedule,
and nobody else notices.
-/

namespace Interaction

universe u v w

variable {I : Interface.{u}} {World Raw Answer Request Result : Type v} {Thread : Type w}

/-- A raw request is answered at once or becomes a request, whose result
becomes an answer. -/
structure Guard (Raw Answer Request Result : Type v) where
  entry : Raw → Except Answer Request
  answer : Result → Answer

namespace Guard

variable (guard : Guard Raw Answer Request Result)

def wrap (program : Program I Result) : Program I Answer :=
  program.bind fun result => .done (guard.answer result)

def serve (handler : Request → Program I Result) (raw : Raw) : Program I Answer :=
  match guard.entry raw with
  | .error answer => .done answer
  | .ok request => guard.wrap (handler request)

def before (system : System I World Request Result) : System I World Raw Answer where
  exec := system.exec
  drift := system.drift
  handler := guard.serve system.handler

/-- What a thread is behind the guard. -/
inductive Matches :
    Option (Raw × Program I Answer) → Option (Request × Program I Result) → Prop where
  | idle : Matches none none
  | refused {raw answer} :
      guard.entry raw = .error answer → Matches (some (raw, .done answer)) none
  | admitted {raw request program} :
      guard.entry raw = .ok request →
      Matches (some (raw, guard.wrap program)) (some (request, program))

def label : Label I Thread Raw → Option (Label I Thread Request)
  | .start thread raw => (guard.entry raw).toOption.map (.start thread)
  | .command thread event => some (.command thread event)
  | .drift => some .drift

/-- The same world, with the requests that were admitted. -/
structure Behind (outside : Config I World Thread Raw Answer)
    (inside : Config I World Thread Request Result) : Prop where
  world : inside.world = outside.world
  threads : ∀ thread, guard.Matches (outside.threads thread) (inside.threads thread)
  trace : inside.trace = outside.trace.filterMap guard.label

variable {guard} {outside outside' : Config I World Thread Raw Answer}
  {inside : Config I World Thread Request Result}

theorem behind_initial (world : World) :
    guard.Behind (Config.initial world : Config I World Thread Raw Answer) (.initial world) where
  world := rfl
  threads := fun _ => .idle
  trace := rfl

theorem exists_of_wrap_eq_call {program : Program I Result} {command : I.Command}
    {next : I.Reply command → Program I Answer}
    (wrapped : guard.wrap program = .call command next) :
    ∃ rest, program = .call command rest ∧ ∀ reply, next reply = guard.wrap (rest reply) := by
  cases program with
  | done result => cases wrapped
  | call issued rest =>
      cases wrapped
      exact ⟨rest, rfl, fun _ => rfl⟩

theorem eq_done_of_wrap_eq_done {program : Program I Result} {answer : Answer}
    (wrapped : guard.wrap program = .done answer) :
    ∃ result, program = .done result ∧ answer = guard.answer result := by
  cases program with
  | call command rest => cases wrapped
  | done result =>
      cases wrapped
      exact ⟨result, rfl, rfl⟩

theorem Behind.exists_of_admitted (behind : guard.Behind outside inside) {thread : Thread}
    {request : Request} {program : Program I Result}
    (running : inside.threads thread = some (request, program)) :
    ∃ raw, guard.entry raw = .ok request ∧
      outside.threads thread = some (raw, guard.wrap program) := by
  have here := behind.threads thread
  rw [running] at here
  generalize outside.threads thread = started at here
  cases here with
  | admitted admits => exact ⟨_, admits, rfl⟩

theorem Behind.answered (behind : guard.Behind outside inside) {thread : Thread} {raw : Raw}
    {answer : Answer} (answered : outside.Answered thread raw answer) :
    guard.entry raw = .error answer ∨
      ∃ request result, guard.entry raw = .ok request ∧ answer = guard.answer result ∧
        inside.Answered thread request result := by
  have here := behind.threads thread
  unfold Config.Answered at answered ⊢
  rw [answered] at here
  generalize outcome : (some (raw, Program.done answer) : Option (Raw × Program I Answer)) =
    started at here
  generalize inside.threads thread = running at here
  cases here with
  | idle => cases outcome
  | refused refuses =>
      cases outcome
      exact .inl refuses
  | admitted admits =>
      obtain ⟨rfl, wrapped⟩ := Prod.mk.inj (Option.some.inj outcome)
      obtain ⟨result, rfl, rfl⟩ := eq_done_of_wrap_eq_done wrapped.symm
      exact .inr ⟨_, result, admits, rfl, rfl⟩

variable [DecidableEq Thread]

theorem Behind.updated (behind : guard.Behind outside inside) {executing : Thread}
    {started : Option (Raw × Program I Answer)} {running : Option (Request × Program I Result)}
    (here : guard.Matches started running) (thread : Thread) :
    guard.Matches (Function.update outside.threads executing started thread)
      (Function.update inside.threads executing running thread) := by
  by_cases same : thread = executing
  · subst same
    simpa using here
  · simpa [Function.update_of_ne same] using behind.threads thread

theorem Behind.step {system : System I World Request Result}
    (behind : guard.Behind outside inside) (step : (guard.before system).Step outside outside') :
    ∃ inside', system.Reaches inside inside' ∧ guard.Behind outside' inside' := by
  cases step with
  | start thread raw fresh =>
      have here := behind.threads thread
      rw [fresh] at here
      generalize running : inside.threads thread = matched at here
      cases here
      cases admits : guard.entry raw with
      | error answer =>
          refine ⟨inside, .refl, behind.world, ?_, ?_⟩
          · have refused : guard.Matches
                (some (raw, (guard.before system).handler raw)) none := by
              simp only [before, serve, admits]
              exact .refused admits
            rw [← Function.update_eq_self thread inside.threads, running]
            exact behind.updated refused
          · simpa [label, admits, Except.toOption] using behind.trace
      | ok request =>
          refine ⟨_, .single (.start thread request running), behind.world, ?_, ?_⟩
          · apply behind.updated
            simp only [before, serve, admits]
            exact .admitted admits
          · simpa [label, admits, Except.toOption] using behind.trace
  | command thread raw command next reply world running executed =>
      have here := behind.threads thread
      generalize matched : inside.threads thread = inner at here
      generalize outcome : outside.threads thread = outer at here
      rw [running] at outcome
      cases here with
      | idle => cases outcome
      | refused => cases outcome
      | admitted admits =>
          obtain ⟨rfl, wrapped⟩ := Prod.mk.inj (Option.some.inj outcome)
          obtain ⟨rest, rfl, goesOn⟩ := exists_of_wrap_eq_call wrapped.symm
          rw [← behind.world] at executed
          refine ⟨_, .single (.command thread _ command rest reply world matched executed), rfl,
            ?_, ?_⟩
          · apply behind.updated
            rw [goesOn]
            exact .admitted admits
          · simpa [label] using behind.trace
  | drift world drifted =>
      rw [← behind.world] at drifted
      refine ⟨_, .single (.drift world drifted), rfl, behind.threads, ?_⟩
      simpa [label] using behind.trace

theorem Behind.reaches {system : System I World Request Result}
    (behind : guard.Behind outside inside)
    (reaches : (guard.before system).Reaches outside outside') :
    ∃ inside', system.Reaches inside inside' ∧ guard.Behind outside' inside' := by
  induction reaches with
  | refl => exact ⟨inside, .refl, behind⟩
  | tail _ step inductionHypothesis =>
      obtain ⟨middle, reached, behindMiddle⟩ := inductionHypothesis
      obtain ⟨later, goesOn, behindLater⟩ := behindMiddle.step step
      exact ⟨later, reached.trans goesOn, behindLater⟩

end Guard

section Without

variable (idle : Request → Bool)

def busyThread (started : Option (Request × Program I Result)) :
    Option (Request × Program I Result) :=
  started.filter fun (request, _) => !idle request

def Label.isBusy : Label I Thread Request → Bool
  | .start _ request => !idle request
  | _ => true

/-- The configuration without the idle requests. -/
def Config.without (config : Config I World Thread Request Result) :
    Config I World Thread Request Result where
  world := config.world
  threads := fun thread => busyThread idle (config.threads thread)
  trace := config.trace.filter (Label.isBusy idle)

variable {idle}

@[simp]
theorem busyThread_none :
    busyThread idle (none : Option (Request × Program I Result)) = none := rfl

theorem busyThread_of_busy {request : Request} (busy : idle request = false)
    (program : Program I Result) :
    busyThread idle (some (request, program)) = some (request, program) := by
  simp [busyThread, Option.filter, busy]

theorem busyThread_of_idle {request : Request} (idles : idle request = true)
    (program : Program I Result) : busyThread idle (some (request, program)) = none := by
  simp [busyThread, Option.filter, idles]

variable {system : System I World Request Result}
  {config before after : Config I World Thread Request Result}

/-- Idle requests stay where they started. -/
def Resting (idle : Request → Bool) (system : System I World Request Result)
    (config : Config I World Thread Request Result) : Prop :=
  ∀ thread request program, config.threads thread = some (request, program) →
    idle request = true → program = system.handler request

theorem Resting.busy
    (rests : ∀ request, idle request = true → ∃ result, system.handler request = .done result)
    (resting : Resting idle system config) {thread : Thread} {request : Request}
    {command : I.Command} {next : I.Reply command → Program I Result}
    (running : config.threads thread = some (request, .call command next)) :
    idle request = false := by
  by_contra idles
  rw [Bool.not_eq_false] at idles
  obtain ⟨result, done⟩ := rests request idles
  have stuck := resting thread request _ running idles
  rw [done] at stuck
  cases stuck

variable [DecidableEq Thread]

theorem busyThread_update (threads : Thread → Option (Request × Program I Result))
    (thread : Thread) (started : Option (Request × Program I Result)) :
    (fun other => busyThread idle (Function.update threads thread started other)) =
      Function.update (fun other => busyThread idle (threads other)) thread
        (busyThread idle started) :=
  Function.comp_update ..

theorem Resting.step
    (rests : ∀ request, idle request = true → ∃ result, system.handler request = .done result)
    (resting : Resting idle system before) (step : system.Step before after) :
    Resting idle system after := by
  intro other asked program running idles
  cases step with
  | start thread request fresh =>
      dsimp only at running
      by_cases same : other = thread
      · subst same
        obtain ⟨rfl, rfl⟩ : request = asked ∧ system.handler request = program := by
          simpa using running
        rfl
      · rw [Function.update_of_ne same] at running
        exact resting other asked program running idles
  | command thread request command next reply world issuing executed =>
      dsimp only at running
      by_cases same : other = thread
      · subst same
        obtain ⟨rfl, -⟩ : request = asked ∧ next reply = program := by simpa using running
        rw [resting.busy rests issuing] at idles
        cases idles
      · rw [Function.update_of_ne same] at running
        exact resting other asked program running idles
  | drift => exact resting other asked program running idles

/-- A step of a schedule is one of the schedule without the idle requests, or
nothing. -/
theorem Resting.without
    (rests : ∀ request, idle request = true → ∃ result, system.handler request = .done result)
    (resting : Resting idle system before) (step : system.Step before after) :
    after.without idle = before.without idle ∨
      system.Step (before.without idle) (after.without idle) := by
  cases step with
  | start thread request fresh =>
      have absent : (before.without idle).threads thread = none := by
        simp [Config.without, fresh]
      cases busy : idle request with
      | true =>
          left
          simp only [Config.without, busyThread_update, busyThread_of_idle busy]
          simp only [Config.without] at absent
          rw [← absent, Function.update_eq_self]
          simp [Label.isBusy, busy]
      | false =>
          right
          have started : system.Step (before.without idle) _ := .start thread request absent
          simpa [Config.without, busyThread_update, busyThread_of_busy busy, Label.isBusy, busy]
            using started
  | command thread request command next reply world issuing executed =>
      right
      have busy := resting.busy rests issuing
      have running : (before.without idle).threads thread =
          some (request, .call command next) := by
        simp [Config.without, issuing, busyThread_of_busy busy]
      have issued := System.Step.command thread request command next reply world running executed
      simpa [Config.without, busyThread_update, busyThread_of_busy busy, Label.isBusy,
        List.filter_cons] using issued
  | drift world drifted =>
      right
      have drifts : system.Step (before.without idle) _ := .drift world drifted
      simpa [Config.without, Label.isBusy, List.filter_cons] using drifts

/-- Leave out of a schedule the requests that issue no command: the world and
what is answered to all others are the same. -/
theorem System.Reaches.without
    (rests : ∀ request, idle request = true → ∃ result, system.handler request = .done result)
    {world : World} (reaches : system.Reaches (.initial world) config) :
    system.Reaches (.initial world) (config.without idle) ∧ Resting idle system config := by
  induction reaches with
  | refl => exact ⟨.refl, by simp [Resting, Config.initial]⟩
  | tail _ step inductionHypothesis =>
      obtain ⟨reached, resting⟩ := inductionHypothesis
      refine ⟨?_, resting.step rests step⟩
      rcases resting.without rests step with same | taken
      · rwa [same]
      · exact reached.tail taken

end Without

end Interaction
