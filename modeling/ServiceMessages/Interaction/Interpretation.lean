import ServiceMessages.Interaction.TaskEither

/-!
# Interpreting one interface in another

A program over the dependencies of a component becomes a program over the
services below it once every dependency is implemented by a program of its own.
The interpreted program does what the implementations do, in the order in which
the component asks for it.
-/

namespace Interaction

universe u

variable {I J : Interface.{u}} {A B E : Type u}

namespace Program

/-- Replace every command by the program that implements it. -/
def interpret (implement : ∀ command, Program J (I.Reply command)) : Program I A → Program J A
  | .done result => .done result
  | .call command next =>
      (implement command).bind fun reply => interpret implement (next reply)

section Interpret

variable (implement : ∀ command, Program J (I.Reply command))
  (answer : ∀ command, J.Reply command)

def implementedAnswer (command : I.Command) : I.Reply command :=
  (implement command).result answer

@[simp]
theorem result_interpret (program : Program I A) :
    (program.interpret implement).result answer =
      program.result (implementedAnswer implement answer) := by
  induction program with
  | done result => rfl
  | call command next inductionHypothesis =>
      rw [interpret, result_bind, inductionHypothesis]
      rfl

@[simp]
theorem commands_interpret (program : Program I A) :
    (program.interpret implement).commands answer =
      (program.commands (implementedAnswer implement answer)).flatMap
        fun command => (implement command).commands answer := by
  induction program with
  | done result => rfl
  | call command next inductionHypothesis =>
      rw [interpret, commands_bind, inductionHypothesis]
      rfl

end Interpret

end Program

namespace TaskEither

section Answered

variable (answer : ∀ command, I.Reply command)

theorem result_fold (onLeft : E → Program I B) (onRight : A → Program I B)
    (task : TaskEither I E A) :
    (fold onLeft onRight task).result answer =
      match task.result answer with
      | .ok value => (onRight value).result answer
      | .error error => (onLeft error).result answer := by
  rw [fold, Program.result_bind]
  cases task.result answer <;> rfl

theorem commands_fold (onLeft : E → Program I B) (onRight : A → Program I B)
    (task : TaskEither I E A) :
    (fold onLeft onRight task).commands answer =
      task.commands answer ++
        match task.result answer with
        | .ok value => (onRight value).commands answer
        | .error error => (onLeft error).commands answer := by
  rw [fold, Program.commands_bind]
  cases task.result answer <;> rfl

@[simp]
theorem commands_map (transform : A → B) (task : TaskEither I E A) :
    (map transform task).commands answer = task.commands answer := by
  rw [map, commands_fold]
  cases task.result answer <;> simp [of, left]

@[simp]
theorem commands_mapLeft {F : Type u} (transform : E → F) (task : TaskEither I E A) :
    (mapLeft transform task).commands answer = task.commands answer := by
  rw [mapLeft, commands_fold]
  cases task.result answer <;> simp [of, left]

end Answered

end TaskEither

end Interaction
