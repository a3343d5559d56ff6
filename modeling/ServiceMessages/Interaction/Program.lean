import Mathlib.Data.List.Basic

/-!
# Programs that talk to the outside world

A program is a finite tree of commands: it either is done with a result or
issues one command and goes on with the reply it receives.  The same program
can be run alone against a world, command by command (`Runs`), or answered
by a fixed function (`result` and `commands`).
-/

namespace Interaction

universe u v

/-- The commands a program may issue and the replies it may receive. -/
structure Interface where
  Command : Type u
  Reply : Command → Type u

structure Event (I : Interface.{u}) where
  command : I.Command
  reply : I.Reply command

inductive Program (I : Interface.{u}) (Result : Type v) : Type (max u v) where
  | done (result : Result)
  | call (command : I.Command) (next : I.Reply command → Program I Result)

namespace Program

variable {I : Interface.{u}} {A B C : Type v}

def perform (command : I.Command) : Program I (I.Reply command) :=
  .call command .done

def bind (program : Program I A) (continuation : A → Program I B) : Program I B :=
  match program with
  | .done result => continuation result
  | .call command next => .call command fun reply => (next reply).bind continuation

@[simp]
theorem bind_done (result : A) (continuation : A → Program I B) :
    (Program.done result).bind continuation = continuation result := rfl

@[simp]
theorem bind_call (command : I.Command) (next : I.Reply command → Program I A)
    (continuation : A → Program I B) :
    (Program.call command next).bind continuation =
      .call command fun reply => (next reply).bind continuation := rfl

theorem bind_assoc (program : Program I A) (first : A → Program I B)
    (second : B → Program I C) :
    (program.bind first).bind second =
      program.bind fun result => (first result).bind second := by
  induction program with
  | done result => rfl
  | call command next inductionHypothesis =>
      simp only [bind_call, inductionHypothesis]

theorem bind_result (program : Program I A) : program.bind .done = program := by
  induction program with
  | done result => rfl
  | call command next inductionHypothesis => simp only [bind_call, inductionHypothesis]

section Answered

variable (answer : ∀ command, I.Reply command)

/-- The result of a program whose commands are answered by a fixed function. -/
def result : Program I A → A
  | .done result => result
  | .call command next => result (next (answer command))

def commands : Program I A → List I.Command
  | .done _ => []
  | .call command next => command :: commands (next (answer command))

@[simp]
theorem result_done (result : A) : (Program.done result : Program I A).result answer = result := rfl

@[simp]
theorem result_call (command : I.Command) (next : I.Reply command → Program I A) :
    (Program.call command next).result answer = (next (answer command)).result answer := rfl

@[simp]
theorem commands_done (result : A) : (Program.done result : Program I A).commands answer = [] := rfl

@[simp]
theorem commands_call (command : I.Command) (next : I.Reply command → Program I A) :
    (Program.call command next).commands answer =
      command :: (next (answer command)).commands answer := rfl

@[simp]
theorem result_bind (program : Program I A) (continuation : A → Program I B) :
    (program.bind continuation).result answer =
      (continuation (program.result answer)).result answer := by
  induction program with
  | done result => rfl
  | call command next inductionHypothesis => simp [inductionHypothesis]

@[simp]
theorem commands_bind (program : Program I A) (continuation : A → Program I B) :
    (program.bind continuation).commands answer =
      program.commands answer ++ (continuation (program.result answer)).commands answer := by
  induction program with
  | done result => rfl
  | call command next inductionHypothesis => simp [inductionHypothesis]

end Answered

end Program

/-- How a world reacts to commands.  `exec world command reply world'` says
that the command may be answered `reply` and leave `world'`. -/
abbrev Semantics (I : Interface.{u}) (World : Type v) :=
  World → (command : I.Command) → I.Reply command → World → Prop

namespace Semantics

variable {I : Interface.{u}} {World : Type v}

def restrict (exec policy : Semantics I World) : Semantics I World :=
  fun world command reply world' =>
    exec world command reply world' ∧ policy world command reply world'

def Total (exec : Semantics I World) : Prop :=
  ∀ world command, ∃ reply world', exec world command reply world'

end Semantics

/-- A program run alone, from its first command to its result. -/
inductive Runs {I : Interface.{u}} {World A : Type w} (exec : Semantics I World) :
    World → Program I A → List (Event I) → A → World → Prop where
  | done {world result} : Runs exec world (.done result) [] result world
  | call {world command next reply world' events result final} :
      exec world command reply world' →
      Runs exec world' (next reply) events result final →
      Runs exec world (.call command next) (⟨command, reply⟩ :: events) result final

section Runs

variable {I : Interface.{u}} {A B World : Type v} {exec : Semantics I World}
  {world final : World} {events : List (Event I)}

@[simp]
theorem runs_done_iff {returned result : A} :
    Runs exec world (.done returned) events result final ↔
      events = [] ∧ result = returned ∧ final = world := by
  constructor
  · intro runs
    cases runs
    exact ⟨rfl, rfl, rfl⟩
  · rintro ⟨rfl, rfl, rfl⟩
    exact .done

theorem runs_call_iff {command : I.Command} {next : I.Reply command → Program I A}
    {result : A} :
    Runs exec world (.call command next) events result final ↔
      ∃ reply world' rest, exec world command reply world' ∧
        events = ⟨command, reply⟩ :: rest ∧
        Runs exec world' (next reply) rest result final := by
  constructor
  · intro runs
    cases runs with
    | call executed rest => exact ⟨_, _, _, executed, rfl, rest⟩
  · rintro ⟨reply, world', rest, executed, rfl, runs⟩
    exact .call executed runs

theorem runs_bind_iff {program : Program I A} {continuation : A → Program I B}
    {result : B} :
    Runs exec world (program.bind continuation) events result final ↔
      ∃ earlier later middle returned,
        Runs exec world program earlier returned middle ∧
        Runs exec middle (continuation returned) later result final ∧
        events = earlier ++ later := by
  induction program generalizing world events with
  | done returned =>
      constructor
      · intro runs
        exact ⟨[], events, world, returned, .done, runs, rfl⟩
      · rintro ⟨earlier, later, middle, value, first, second, rfl⟩
        obtain ⟨rfl, rfl, rfl⟩ := runs_done_iff.mp first
        exact second
  | call command next inductionHypothesis =>
      constructor
      · intro runs
        obtain ⟨reply, world', rest, executed, rfl, remaining⟩ := runs_call_iff.mp runs
        obtain ⟨earlier, later, middle, returned, first, second, rfl⟩ :=
          (inductionHypothesis reply).mp remaining
        exact ⟨_, later, middle, returned, .call executed first, second, rfl⟩
      · rintro ⟨earlier, later, middle, returned, first, second, rfl⟩
        obtain ⟨reply, world', rest, executed, rfl, runs⟩ := runs_call_iff.mp first
        exact .call executed
          ((inductionHypothesis reply).mpr ⟨rest, later, middle, returned, runs, second, rfl⟩)

theorem Runs.bind {program : Program I A} {continuation : A → Program I B} {middle : World}
    {returned : A} {result : B} {earlier later : List (Event I)}
    (first : Runs exec world program earlier returned middle)
    (second : Runs exec middle (continuation returned) later result final) :
    Runs exec world (program.bind continuation) (earlier ++ later) result final :=
  runs_bind_iff.mpr ⟨earlier, later, middle, returned, first, second, rfl⟩

/-- A program reaches a result in every world that answers every command. -/
theorem Runs.exists_of_total (total : exec.Total) (program : Program I A)
    (world : World) : ∃ events result final, Runs exec world program events result final := by
  induction program generalizing world with
  | done result => exact ⟨[], result, world, .done⟩
  | call command next inductionHypothesis =>
      obtain ⟨reply, world', executed⟩ := total world command
      obtain ⟨events, result, final, runs⟩ := inductionHypothesis reply world'
      exact ⟨_, result, final, .call executed runs⟩

theorem Runs.mono {weaker : Semantics I World}
    (implies : ∀ world command reply world',
      exec world command reply world' → weaker world command reply world')
    {program : Program I A} {result : A}
    (runs : Runs exec world program events result final) :
    Runs weaker world program events result final := by
  induction runs with
  | done => exact .done
  | call executed _ inductionHypothesis =>
      exact .call (implies _ _ _ _ executed) inductionHypothesis

end Runs

/-- The first commands of a program, up to what is left of it. -/
inductive Advances {I : Interface.{u}} {World A : Type w} (exec : Semantics I World) :
    World → Program I A → List (Event I) → Program I A → World → Prop where
  | refl {world program} : Advances exec world program [] program world
  | call {world command next reply world' events rest final} :
      exec world command reply world' →
      Advances exec world' (next reply) events rest final →
      Advances exec world (.call command next) (⟨command, reply⟩ :: events) rest final

theorem Runs.advances {I : Interface.{u}} {A World : Type v} {exec : Semantics I World}
    {world final : World} {program : Program I A} {events : List (Event I)} {result : A}
    (runs : Runs exec world program events result final) :
    Advances exec world program events (.done result) final := by
  induction runs with
  | done => exact .refl
  | call executed _ inductionHypothesis => exact .call executed inductionHypothesis

section Advances

variable {I : Interface.{u}} {A B World : Type v} {exec : Semantics I World}
  {world middle final : World} {program between rest : Program I A}
  {earlier later events : List (Event I)}

theorem Advances.bind (advances : Advances exec world program events rest final)
    (continuation : A → Program I B) :
    Advances exec world (program.bind continuation) events (rest.bind continuation) final := by
  induction advances with
  | refl => exact .refl
  | call executed _ inductionHypothesis => exact .call executed inductionHypothesis

theorem Advances.trans (first : Advances exec world program earlier between middle)
    (second : Advances exec middle between later rest final) :
    Advances exec world program (earlier ++ later) rest final := by
  induction first with
  | refl => exact second
  | call executed _ inductionHypothesis => exact .call executed (inductionHypothesis second)

theorem Advances.runs {result : A} (first : Advances exec world program earlier rest middle)
    (second : Runs exec middle rest later result final) :
    Runs exec world program (earlier ++ later) result final := by
  induction first with
  | refl => exact second
  | call executed _ inductionHypothesis => exact .call executed (inductionHypothesis second)

end Advances

/-- `Ensures exec world program post`: however the world answers, the program
started in `world` ends as `post` says of its events, its result and the world
it leaves. -/
def Ensures {I : Interface.{u}} {A World : Type v} (exec : Semantics I World)
    (world : World) (program : Program I A)
    (post : List (Event I) → A → World → Prop) : Prop :=
  ∀ events result final, Runs exec world program events result final →
    post events result final

section Ensures

variable {I : Interface.{u}} {A B World : Type v} {exec : Semantics I World} {world : World}

@[simp]
theorem ensures_done {result : A} {post : List (Event I) → A → World → Prop} :
    Ensures exec world (.done result) post ↔ post [] result world := by
  constructor
  · intro ensures
    exact ensures _ _ _ .done
  · rintro holds events returned final runs
    obtain ⟨rfl, rfl, rfl⟩ := runs_done_iff.mp runs
    exact holds

theorem ensures_call {command : I.Command} {next : I.Reply command → Program I A}
    {post : List (Event I) → A → World → Prop} :
    Ensures exec world (.call command next) post ↔
      ∀ reply world', exec world command reply world' →
        Ensures exec world' (next reply) fun events => post (⟨command, reply⟩ :: events) := by
  constructor
  · intro ensures reply world' executed events result final runs
    exact ensures _ _ _ (.call executed runs)
  · intro ensures events result final runs
    obtain ⟨reply, world', rest, executed, rfl, remaining⟩ := runs_call_iff.mp runs
    exact ensures reply world' executed rest result final remaining

theorem ensures_bind {program : Program I A} {continuation : A → Program I B}
    {post : List (Event I) → B → World → Prop} :
    Ensures exec world (program.bind continuation) post ↔
      Ensures exec world program fun earlier returned middle =>
        Ensures exec middle (continuation returned) fun later => post (earlier ++ later) := by
  constructor
  · intro ensures earlier returned middle first later result final second
    exact ensures _ _ _
      (runs_bind_iff.mpr ⟨earlier, later, middle, returned, first, second, rfl⟩)
  · intro ensures events result final runs
    obtain ⟨earlier, later, middle, returned, first, second, rfl⟩ := runs_bind_iff.mp runs
    exact ensures earlier returned middle first later result final second

/-- The rule of consequence. -/
theorem Ensures.mono {program : Program I A} {post weaker : List (Event I) → A → World → Prop}
    (ensures : Ensures exec world program post)
    (implies : ∀ events result final, post events result final → weaker events result final) :
    Ensures exec world program weaker :=
  fun events result final runs => implies _ _ _ (ensures events result final runs)

end Ensures

end Interaction
