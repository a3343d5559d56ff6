import ServiceMessages.Interaction.Interpretation
import ServiceMessages.Interaction.LocalView

/-!
# Programs that go through stages

A program goes through stages if its commands have ranks and every command
comes after those of lower ranks.  Such a program asks nothing twice, so all the
replies of a run are given by one function, and what is known of answered
programs is known of their runs.
-/

namespace Interaction

universe u v

/-- The stage a command belongs to.  What belongs to no stage has one reply only. -/
structure Stages (I : Interface.{u}) where
  rank : I.Command → Option ℕ
  subsingleton_of_none : ∀ command, rank command = none → Subsingleton (I.Reply command)

variable {I : Interface.{u}} {A B : Type v}

namespace Stages

variable (stages : Stages I)

/-- The program goes through stages from the lower bound on, below the upper one. -/
def Within (upper : ℕ) : ℕ → Program I A → Prop
  | lower, .done _ => lower ≤ upper
  | lower, .call command next =>
      match stages.rank command with
      | none => ∀ reply, Within upper lower (next reply)
      | some rank => lower ≤ rank ∧ rank < upper ∧ ∀ reply, Within upper (rank + 1) (next reply)

variable {stages} {lower middle upper : ℕ}

theorem within_call_of_none {command : I.Command} (unranked : stages.rank command = none)
    {next : I.Reply command → Program I A} :
    stages.Within upper lower (.call command next) ↔
      ∀ reply, stages.Within upper lower (next reply) := by
  simp only [Within, unranked]

theorem within_call_of_some {command : I.Command} {rank : ℕ}
    (ranked : stages.rank command = some rank) {next : I.Reply command → Program I A} :
    stages.Within upper lower (.call command next) ↔
      lower ≤ rank ∧ rank < upper ∧ ∀ reply, stages.Within upper (rank + 1) (next reply) := by
  simp only [Within, ranked]

theorem Within.mono {program : Program I A} (within : stages.Within upper middle program)
    (ordered : lower ≤ middle) : stages.Within upper lower program := by
  induction program generalizing middle with
  | done result => exact Nat.le_trans ordered within
  | call command next inductionHypothesis =>
      cases ranked : stages.rank command with
      | none =>
          rw [within_call_of_none ranked] at within ⊢
          exact fun reply => inductionHypothesis reply (within reply) ordered
      | some rank =>
          rw [within_call_of_some ranked] at within ⊢
          exact ⟨Nat.le_trans ordered within.1, within.2⟩

theorem Within.bind {program : Program I A} {continuation : A → Program I B}
    (first : stages.Within middle lower program) (ordered : middle ≤ upper)
    (second : ∀ result, stages.Within upper middle (continuation result)) :
    stages.Within upper lower (program.bind continuation) := by
  induction program generalizing lower with
  | done result => exact (second result).mono first
  | call command next inductionHypothesis =>
      rw [Program.bind_call]
      cases ranked : stages.rank command with
      | none =>
          rw [within_call_of_none ranked] at first ⊢
          exact fun reply => inductionHypothesis reply (first reply)
      | some rank =>
          rw [within_call_of_some ranked] at first ⊢
          obtain ⟨above, below, rest⟩ := first
          exact ⟨above, Nat.lt_of_lt_of_le below ordered,
            fun reply => inductionHypothesis reply (rest reply)⟩

theorem Within.fold {E : Type v} {task : TaskEither I E A} {onLeft : E → Program I B}
    {onRight : A → Program I B} (first : stages.Within middle lower task)
    (ordered : middle ≤ upper) (failed : ∀ error, stages.Within upper middle (onLeft error))
    (succeeded : ∀ value, stages.Within upper middle (onRight value)) :
    stages.Within upper lower (TaskEither.fold onLeft onRight task) := by
  refine first.bind ordered fun outcome => ?_
  cases outcome with
  | ok value => exact succeeded value
  | error error => exact failed error

section TaskEither

variable {E F : Type v} {task : TaskEither I E A}

theorem Within.chain {next : A → TaskEither I E B} (first : stages.Within middle lower task)
    (ordered : middle ≤ upper) (second : ∀ value, stages.Within upper middle (next value)) :
    stages.Within upper lower (TaskEither.chain next task) :=
  first.fold ordered (fun _ => ordered) second

theorem Within.map {transform : A → B} (within : stages.Within upper lower task) :
    stages.Within upper lower (TaskEither.map transform task) :=
  within.fold Nat.le.refl (fun _ => Nat.le.refl) fun _ => Nat.le.refl

theorem Within.mapLeft {transform : E → F} (within : stages.Within upper lower task) :
    stages.Within upper lower (TaskEither.mapLeft transform task) :=
  within.fold Nat.le.refl (fun _ => Nat.le.refl) fun _ => Nat.le.refl

theorem Within.mapM {transform : A → Program I B} (within : stages.Within upper lower task)
    (transforms : ∀ value, stages.Within upper upper (transform value)) :
    stages.Within upper lower (TaskEither.mapM transform task) :=
  within.fold Nat.le.refl (fun _ => Nat.le.refl) fun value =>
    (transforms value).bind Nat.le.refl fun _ => Nat.le.refl

theorem Within.mapLeftM {transform : E → Program I F} (within : stages.Within upper lower task)
    (transforms : ∀ error, stages.Within upper upper (transform error)) :
    stages.Within upper lower (TaskEither.mapLeftM transform task) :=
  within.fold Nat.le.refl
    (fun error => (transforms error).bind Nat.le.refl fun _ => Nat.le.refl) fun _ => Nat.le.refl

end TaskEither

theorem Within.interpret {J : Interface.{v}} {I : Interface.{v}} {stages : Stages I}
    {lowerStages : Stages J} {implement : ∀ command, Program J (I.Reply command)}
    (place : ℕ → ℕ) (monotone : ∀ {first second}, first ≤ second → place first ≤ place second)
    (unranked : ∀ command, stages.rank command = none →
      ∀ bound, lowerStages.Within bound bound (implement command))
    (ranked : ∀ command rank, stages.rank command = some rank →
      lowerStages.Within (place (rank + 1)) (place rank) (implement command))
    {program : Program I A} {lower upper : ℕ} (within : stages.Within upper lower program)
    (ordered : lower ≤ upper) :
    lowerStages.Within (place upper) (place lower) (program.interpret implement) := by
  induction program generalizing lower with
  | done result => exact monotone within
  | call command next inductionHypothesis =>
      rw [Program.interpret]
      cases stage : stages.rank command with
      | none =>
          rw [within_call_of_none stage] at within
          exact (unranked command stage (place lower)).bind (monotone ordered)
            fun reply => inductionHypothesis reply (within reply) ordered
      | some rank =>
          rw [within_call_of_some stage] at within
          obtain ⟨above, below, rest⟩ := within
          exact ((ranked command rank stage).mono (monotone above)).bind (monotone below)
            fun reply => inductionHypothesis reply (rest reply) below

/-- No command goes back to a lower stage. -/
theorem Within.le_rank {permitted : Event I → Prop} {world final : PUnit}
    {program rest : Program I A} {events : List (Event I)}
    (within : stages.Within upper lower program)
    (advances : Advances (anyReply permitted) world program events rest final) :
    ∀ event ∈ events, ∀ rank, stages.rank event.command = some rank → lower ≤ rank := by
  induction advances generalizing lower with
  | refl => simp
  | @call _ command next reply _ events _ _ _ _ inductionHypothesis =>
      cases ranked : stages.rank command with
      | none =>
          rw [within_call_of_none ranked] at within
          intro event membership rank here
          rcases List.mem_cons.mp membership with rfl | later
          · rw [ranked] at here
            cases here
          · exact inductionHypothesis (within reply) event later rank here
      | some stage =>
          rw [within_call_of_some ranked] at within
          intro event membership rank here
          rcases List.mem_cons.mp membership with rfl | later
          · rw [ranked] at here
            cases here
            exact within.1
          · have above := inductionHypothesis (within.2.2 reply) event later rank here
            have first := within.1
            omega

end Stages

theorem Advances.answered {permitted : Event I → Prop} {world final : PUnit}
    {program rest : Program I A} {events : List (Event I)} {answer : ∀ command, I.Reply command}
    (advances : Advances (anyReply permitted) world program events rest final)
    (agrees : ∀ event ∈ events, answer event.command = event.reply) :
    program.commands answer = events.map Event.command ++ rest.commands answer ∧
      program.result answer = rest.result answer := by
  induction advances with
  | refl => exact ⟨rfl, rfl⟩
  | @call _ command next reply _ events _ _ _ _ inductionHypothesis =>
      have first := agrees _ List.mem_cons_self
      obtain ⟨commands, result⟩ := inductionHypothesis fun event later =>
        agrees event (List.mem_cons_of_mem _ later)
      simp only at first
      simp only [Program.commands_call, Program.result_call, first, commands, result,
        List.map_cons, List.cons_append, and_self]

section Answers

variable [DecidableEq I.Command] (unanswered : ∀ command, I.Reply command)

/-- The replies of some events, and a default for all that was not asked. -/
def answerFrom : List (Event I) → ∀ command, I.Reply command
  | [], command => unanswered command
  | event :: rest, command =>
      if same : event.command = command then same ▸ event.reply else answerFrom rest command

theorem answerFrom_cons_self (event : Event I) (rest : List (Event I)) :
    answerFrom unanswered (event :: rest) event.command = event.reply := by
  simp [answerFrom]

theorem answerFrom_cons_of_ne {event : Event I} {command : I.Command}
    (distinct : event.command ≠ command) (rest : List (Event I)) :
    answerFrom unanswered (event :: rest) command = answerFrom unanswered rest command := by
  simp [answerFrom, distinct]

theorem answerFrom_cases (events : List (Event I)) (command : I.Command) :
    answerFrom unanswered events command = unanswered command ∨
      ⟨command, answerFrom unanswered events command⟩ ∈ events := by
  induction events with
  | nil => exact .inl rfl
  | cons event rest inductionHypothesis =>
      by_cases same : event.command = command
      · subst same
        rw [answerFrom_cons_self]
        exact .inr List.mem_cons_self
      · rw [answerFrom_cons_of_ne _ same]
        exact inductionHypothesis.imp_right (List.mem_cons_of_mem _)

variable {unanswered} {permitted : Event I → Prop} {world final : PUnit}
  {program rest : Program I A} {events : List (Event I)}

/-- A program in stages asks nothing twice, so the function gives every reply
of the run. -/
theorem Stages.Within.answerFrom_eq {stages : Stages I} {lower upper : ℕ}
    (within : stages.Within upper lower program)
    (advances : Advances (anyReply permitted) world program events rest final) :
    ∀ event ∈ events, answerFrom unanswered events event.command = event.reply := by
  induction advances generalizing lower with
  | refl => simp
  | @call _ command next reply _ events _ _ _ remaining inductionHypothesis =>
      intro event membership
      rcases List.mem_cons.mp membership with rfl | later
      · exact answerFrom_cons_self ..
      · by_cases same : command = event.command
        · obtain ⟨asked, given⟩ := event
          subst same
          rw [answerFrom_cons_self unanswered ⟨command, reply⟩]
          cases ranked : stages.rank command with
          | none => exact (stages.subsingleton_of_none command ranked).elim _ _
          | some rank =>
              rw [Stages.within_call_of_some ranked] at within
              have above := (within.2.2 reply).le_rank remaining _ later rank ranked
              omega
        · rw [answerFrom_cons_of_ne _ same]
          cases ranked : stages.rank command with
          | none =>
              rw [Stages.within_call_of_none ranked] at within
              exact inductionHypothesis (within reply) event later
          | some rank =>
              rw [Stages.within_call_of_some ranked] at within
              exact inductionHypothesis (within.2.2 reply) event later

end Answers

end Interaction
