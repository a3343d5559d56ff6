import Mathlib.Data.List.Perm.Basic
import ServiceMessages.Interaction.Interpretation
import ServiceMessages.Interaction.LocalView

/-!
# Tasks in parallel that collect their errors

Two programs that run side by side take turns as a schedule says.  Tasks that
are validated together are all run, whatever becomes of the others, and their
errors are put together in the order in which the tasks are named, not in the
order in which they fail.
-/

namespace Interaction

universe u v

variable {I : Interface.{u}} {World A B C P : Type u}

namespace Program

/-- The turns of the second program while the first is about to issue a
command.  On its own turn the first goes on by `resume`. -/
def waiting (command : I.Command) (next : I.Reply command → Program I A)
    (resume : I.Reply command → List Bool → Program I B → Program I (A × B)) :
    List Bool → Program I B → Program I (A × B)
  | false :: schedule, .call other continuation =>
      .call other fun reply => waiting command next resume schedule (continuation reply)
  | schedule, program => .call command fun reply => resume reply schedule.tail program

theorem waiting_done {command : I.Command} {next : I.Reply command → Program I A}
    {resume : I.Reply command → List Bool → Program I B → Program I (A × B)}
    (schedule : List Bool) (second : B) :
    waiting command next resume schedule (.done second) =
      .call command fun reply => resume reply schedule.tail (.done second) := by
  cases schedule with
  | nil => rfl
  | cons turn schedule => cases turn <;> rfl

/-- Two programs side by side.  The first one is to take its turn at every
`true` of the schedule, and when the schedule has ended or the second is done. -/
def interleave : Program I A → List Bool → Program I B → Program I (A × B)
  | .done first, _, program => program.bind fun second => .done (first, second)
  | .call command next, schedule, program =>
      waiting command next (fun reply => interleave (next reply)) schedule program

def Answers (program : Program I A) (events : List (Event I)) (result : A) : Prop :=
  Runs (anyReply fun _ => True) (PUnit.unit : PUnit.{u + 1}) program events result .unit

theorem answers_call_iff {command : I.Command} {next : I.Reply command → Program I A}
    {events : List (Event I)} {result : A} :
    (Program.call command next).Answers events result ↔
      ∃ reply rest, events = ⟨command, reply⟩ :: rest ∧ (next reply).Answers rest result := by
  constructor
  · intro answers
    obtain ⟨reply, _, rest, -, shape, runs⟩ := runs_call_iff.mp answers
    exact ⟨reply, rest, shape, runs⟩
  · rintro ⟨reply, rest, rfl, answers⟩
    exact .call trivial answers

theorem answers_bind_iff {program : Program I A} {continuation : A → Program I B}
    {events : List (Event I)} {result : B} :
    (program.bind continuation).Answers events result ↔
      ∃ earlier later returned, program.Answers earlier returned ∧
        (continuation returned).Answers later result ∧ events = earlier ++ later := by
  constructor
  · intro answers
    obtain ⟨earlier, later, _, returned, first, second, shape⟩ := runs_bind_iff.mp answers
    exact ⟨earlier, later, returned, first, second, shape⟩
  · rintro ⟨earlier, later, returned, first, second, rfl⟩
    exact first.bind second

theorem Answers.of_runs {exec : Semantics I World} {world final : World} {program : Program I A}
    {events : List (Event I)} {result : A} (runs : Runs exec world program events result final) :
    program.Answers events result := by
  induction runs with
  | done => exact .done
  | call _ _ inductionHypothesis => exact .call trivial inductionHypothesis

/-- Both of the programs that run side by side are run, each with the replies to
its own commands. -/
def BothAnswer (first : Program I A) (second : Program I B) (events : List (Event I))
    (results : A × B) : Prop :=
  ∃ earlier later, first.Answers earlier results.1 ∧ second.Answers later results.2 ∧
    events.Perm (earlier ++ later)

section Waiting

variable {command : I.Command} {next : I.Reply command → Program I A}
  {resume : I.Reply command → List Bool → Program I B → Program I (A × B)}
  {schedule : List Bool} {program : Program I B} {events : List (Event I)} {results : A × B}
  (resumes : ∀ reply schedule program events results,
    (resume reply schedule program).Answers events results →
      BothAnswer (next reply) program events results)
include resumes

theorem bothAnswer_resume
    (answers : (Program.call command fun reply =>
      resume reply schedule program).Answers events results) :
    BothAnswer (.call command next) program events results := by
  obtain ⟨reply, rest, rfl, resumed⟩ := answers_call_iff.mp answers
  obtain ⟨earlier, later, first, second, shuffled⟩ := resumes reply _ _ _ _ resumed
  exact ⟨_, later, answers_call_iff.mpr ⟨reply, earlier, rfl, first⟩, second, shuffled.cons _⟩

theorem bothAnswer_waiting
    (answers : (waiting command next resume schedule program).Answers events results) :
    BothAnswer (.call command next) program events results := by
  induction program generalizing schedule events with
  | done second =>
      rw [waiting_done] at answers
      exact bothAnswer_resume resumes answers
  | call other continuation inductionHypothesis =>
      cases schedule with
      | nil => exact bothAnswer_resume resumes answers
      | cons turn schedule =>
          cases turn with
          | true => exact bothAnswer_resume resumes answers
          | false =>
              obtain ⟨reply, rest, rfl, waited⟩ := answers_call_iff.mp answers
              obtain ⟨earlier, later, first, second, shuffled⟩ :=
                inductionHypothesis reply waited
              refine ⟨earlier, _, first, answers_call_iff.mpr ⟨reply, later, rfl, second⟩, ?_⟩
              exact (shuffled.cons _).trans List.perm_middle.symm

end Waiting

theorem bothAnswer_interleave {first : Program I A} {schedule : List Bool} {second : Program I B}
    {events : List (Event I)} {results : A × B}
    (answers : (interleave first schedule second).Answers events results) :
    BothAnswer first second events results := by
  induction first generalizing schedule second events results with
  | done value =>
      obtain ⟨earlier, later, returned, runs, finished, rfl⟩ := answers_bind_iff.mp answers
      cases finished
      exact ⟨[], earlier, .done, runs, by simp⟩
  | call command next inductionHypothesis =>
      apply bothAnswer_waiting _ answers
      intro reply schedule program events results resumed
      exact inductionHypothesis reply resumed

end Program

namespace TaskEither

open Program

def ap (schedule : List Bool) (function : TaskEither I (List P) (A → B))
    (task : TaskEither I (List P) A) : TaskEither I (List P) B :=
  (interleave function schedule task).bind fun
    | (.ok transform, .ok value) => of (transform value)
    | (.ok _, .error problems) => left problems
    | (.error problems, .ok _) => left problems
    | (.error problems, .error others) => left (problems ++ others)

def sequenceT (schedule : List Bool) (first : TaskEither I (List P) A)
    (second : TaskEither I (List P) B) : TaskEither I (List P) (A × B) :=
  ap schedule (first |> map fun value other => (value, other)) second

def reduce (schedules : ℕ → List Bool) (values : TaskEither I (List P) (List A)) :
    List (TaskEither I (List P) A) → TaskEither I (List P) (List A)
  | [] => values
  | task :: tasks =>
      reduce (fun index => schedules (index + 1))
        (ap (schedules 0) (values |> map fun values value => values ++ [value]) task) tasks

def sequence (schedules : ℕ → List Bool) (tasks : List (TaskEither I (List P) A)) :
    TaskEither I (List P) (List A) :=
  reduce schedules (of []) tasks

/-- A task succeeds exactly when there are no problems, and else fails with all of
them. -/
inductive Reports : Except (List P) A → List P → Prop where
  | nothing (value) : Reports (.ok value) []
  | all {problems} : problems ≠ [] → Reports (.error problems) problems

/-- A task issues a number of commands, each of them once and in some order, and
reports what the replies show to be wrong, in the order given. -/
def Surveys (problemsOf : Event I → List P) (commands : List I.Command)
    (task : TaskEither I (List P) A) : Prop :=
  ∀ events outcome, task.Answers events outcome →
    ∃ asked : List (Event I), asked.map Event.command = commands ∧ events.Perm asked ∧
      Reports outcome (asked.flatMap problemsOf)

variable {problemsOf : Event I → List P} {commands others : List I.Command}

theorem surveys_of (value : A) : Surveys problemsOf [] (of value : TaskEither I (List P) A) := by
  intro events outcome answers
  cases answers
  exact ⟨[], rfl, .nil, .nothing value⟩

theorem Surveys.map {task : TaskEither I (List P) A} (surveys : Surveys problemsOf commands task)
    (transform : A → B) : Surveys problemsOf commands (map transform task) := by
  intro events outcome answers
  obtain ⟨earlier, later, returned, runs, finished, rfl⟩ := answers_bind_iff.mp answers
  obtain ⟨asked, issued, shuffled, reports⟩ := surveys earlier returned runs
  refine ⟨asked, issued, ?_⟩
  cases returned with
  | ok value =>
      cases finished
      generalize asked.flatMap problemsOf = problems at reports
      cases reports
      exact ⟨by simpa using shuffled, .nothing _⟩
  | error found =>
      cases finished
      generalize asked.flatMap problemsOf = problems at reports
      cases reports with
      | all some => exact ⟨by simpa using shuffled, .all some⟩

/-- The problems of two tasks stand in the order of the tasks. -/
theorem Surveys.ap {schedule : List Bool} {function : TaskEither I (List P) (A → B)}
    {task : TaskEither I (List P) A} (first : Surveys problemsOf commands function)
    (second : Surveys problemsOf others task) :
    Surveys problemsOf (commands ++ others) (ap schedule function task) := by
  intro events outcome answers
  obtain ⟨both, later, ⟨transform, value⟩, runs, finished, rfl⟩ := answers_bind_iff.mp answers
  obtain ⟨one, other, firstRuns, secondRuns, shuffled⟩ := bothAnswer_interleave runs
  obtain ⟨asked, issued, shuffledOne, reports⟩ := first one transform firstRuns
  obtain ⟨askedOther, issuedOther, shuffledOther, reportsOther⟩ := second other value secondRuns
  refine ⟨asked ++ askedOther, by rw [List.map_append, issued, issuedOther], ?_⟩
  have together : both.Perm (asked ++ askedOther) :=
    shuffled.trans (shuffledOne.append shuffledOther)
  rw [List.flatMap_append]
  generalize asked.flatMap problemsOf = problems at reports
  generalize askedOther.flatMap problemsOf = otherProblems at reportsOther
  cases reports with
  | nothing =>
      cases reportsOther with
      | nothing =>
          cases finished
          exact ⟨by simpa using together, .nothing _⟩
      | all some =>
          cases finished
          exact ⟨by simpa using together, .all some⟩
  | all some =>
      cases reportsOther with
      | nothing =>
          cases finished
          exact ⟨by simpa using together, by simpa using Reports.all some⟩
      | all =>
          cases finished
          exact ⟨by simpa using together, .all (List.append_ne_nil_of_left_ne_nil some _)⟩

theorem Surveys.sequenceT {schedule : List Bool} {first : TaskEither I (List P) A}
    {second : TaskEither I (List P) B} (surveys : Surveys problemsOf commands first)
    (surveysOther : Surveys problemsOf others second) :
    Surveys problemsOf (commands ++ others) (sequenceT schedule first second) :=
  (surveys.map _).ap surveysOther

theorem Surveys.reduce {schedules : ℕ → List Bool} {values : TaskEither I (List P) (List A)}
    {tasks : List (TaskEither I (List P) A)} (surveys : Surveys problemsOf commands values)
    (each : List.Forall₂ (fun command task => Surveys problemsOf [command] task) others tasks) :
    Surveys problemsOf (commands ++ others) (reduce schedules values tasks) := by
  induction each generalizing schedules values commands with
  | nil => simpa [TaskEither.reduce] using surveys
  | cons head _ inductionHypothesis =>
      rw [List.append_cons]
      apply inductionHypothesis
      exact (surveys.map _).ap head

theorem surveys_sequence {schedules : ℕ → List Bool} {tasks : List (TaskEither I (List P) A)}
    (each : List.Forall₂ (fun command task => Surveys problemsOf [command] task) commands tasks) :
    Surveys problemsOf commands (sequence schedules tasks) :=
  (surveys_of []).reduce each

end TaskEither

end Interaction
