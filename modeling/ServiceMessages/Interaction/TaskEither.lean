import ServiceMessages.Interaction.Program

/-!
# Fallible programs and the combinators that chain them

`TaskEither I E A` is a program that ends in a value or in an error.  The
combinators are those of the functional library the handlers are written in,
under their names there: they only sequence commands, so each of them is a
`Program.bind` followed by a case distinction on the outcome.
-/

namespace Interaction

universe u v

abbrev TaskEither (I : Interface.{u}) (E A : Type v) := Program I (Except E A)

namespace TaskEither

variable {I : Interface.{u}} {E F A B : Type v}

def of (value : A) : TaskEither I E A := .done (.ok value)

def left (error : E) : TaskEither I E A := .done (.error error)

def fromEither (outcome : Except E A) : TaskEither I E A := .done outcome

def fromOption (onNone : E) : Option A → TaskEither I E A
  | some value => of value
  | none => left onNone

def fromPredicate (predicate : A → Bool) (onFalse : E) (value : A) : TaskEither I E A :=
  if predicate value then of value else left onFalse

def fold (onLeft : E → Program I B) (onRight : A → Program I B)
    (task : TaskEither I E A) : Program I B :=
  task.bind fun
    | .ok value => onRight value
    | .error error => onLeft error

def chain (next : A → TaskEither I E B) (task : TaskEither I E A) : TaskEither I E B :=
  task.fold left next

def chainEitherK (next : A → Except E B) (task : TaskEither I E A) : TaskEither I E B :=
  task.chain fun value => fromEither (next value)

def map (transform : A → B) (task : TaskEither I E A) : TaskEither I E B :=
  task.fold left fun value => of (transform value)

def mapLeft (transform : E → F) (task : TaskEither I E A) : TaskEither I F A :=
  task.fold (fun error => left (transform error)) of

def orElse (onLeft : E → TaskEither I F A) (task : TaskEither I E A) : TaskEither I F A :=
  task.fold onLeft of

def mapLeftM (transform : E → Program I F) (task : TaskEither I E A) : TaskEither I F A :=
  task.fold (fun error => (transform error).bind left) of

def mapM (transform : A → Program I B) (task : TaskEither I E A) : TaskEither I E B :=
  task.fold left fun value => (transform value).bind of

/-- Two tasks run in parallel, of which either may complete first.  Both are
run whatever becomes of the other, and an error of the first one named wins. -/
def sequencePar (firstCompletesFirst : Bool) (first : TaskEither I E A)
    (second : TaskEither I E B) : TaskEither I E (A × B) :=
  let combine (one : Except E A) (other : Except E B) : Except E (A × B) :=
    one.bind fun value => other.map fun otherValue => (value, otherValue)
  if firstCompletesFirst then
    first.bind fun one => second.bind fun other => fromEither (combine one other)
  else
    second.bind fun other => first.bind fun one => fromEither (combine one other)

/-- Run a second task for its effect and keep the value of the first. -/
def chainFirst (next : A → TaskEither I E B) (task : TaskEither I E A) : TaskEither I E A :=
  task.chain fun value => (next value).map fun _ => value

/-- Forget which of the two outcomes a task ended in. -/
def toUnion (task : TaskEither I A A) : Program I A :=
  task.fold .done .done

section Equations

variable (value : A) (error : E) (command : I.Command)

@[simp]
theorem fold_of (onLeft : E → Program I B) (onRight : A → Program I B) :
    fold onLeft onRight (of value) = onRight value := rfl

@[simp]
theorem fold_left (onLeft : E → Program I B) (onRight : A → Program I B) :
    fold onLeft onRight (left error) = onLeft error := rfl

@[simp]
theorem fold_done_ok (onLeft : E → Program I B) (onRight : A → Program I B) :
    fold onLeft onRight (.done (.ok value)) = onRight value := rfl

@[simp]
theorem fold_done_error (onLeft : E → Program I B) (onRight : A → Program I B) :
    fold onLeft onRight (.done (.error error)) = onLeft error := rfl

@[simp]
theorem fold_call (next : I.Reply command → TaskEither I E A)
    (onLeft : E → Program I B) (onRight : A → Program I B) :
    fold onLeft onRight (.call command next) =
      .call command fun reply => fold onLeft onRight (next reply) := rfl

@[simp]
theorem bind_of (continuation : Except E A → Program I B) :
    Program.bind (of value) continuation = continuation (.ok value) := rfl

@[simp]
theorem bind_left (continuation : Except E A → Program I B) :
    Program.bind (left error) continuation = continuation (.error error) := rfl

theorem fold_const (continuation : Program I B) (task : TaskEither I E A) :
    fold (fun _ => continuation) (fun _ => continuation) task =
      task.bind fun _ => continuation := by
  unfold fold
  congr 1
  funext outcome
  cases outcome <;> rfl

theorem fold_of_bind {C : Type v} (onLeft : E → Program I B) (onRight : A → Program I B)
    (program : Program I C) (continuation : C → TaskEither I E A) :
    fold onLeft onRight (program.bind continuation) =
      program.bind fun result => fold onLeft onRight (continuation result) :=
  Program.bind_assoc ..

theorem fold_bind {C : Type v} (onLeft : E → Program I B) (onRight : A → Program I B)
    (task : TaskEither I E A) (continuation : B → Program I C) :
    (fold onLeft onRight task).bind continuation =
      fold (fun error => (onLeft error).bind continuation)
        (fun value => (onRight value).bind continuation) task := by
  unfold fold
  rw [Program.bind_assoc]
  congr 1
  funext outcome
  cases outcome <;> rfl

theorem fold_fold {F C : Type v} (onLeft : F → Program I C) (onRight : B → Program I C)
    (innerLeft : E → TaskEither I F B) (innerRight : A → TaskEither I F B)
    (task : TaskEither I E A) :
    fold onLeft onRight (fold innerLeft innerRight task) =
      fold (fun error => fold onLeft onRight (innerLeft error))
        (fun value => fold onLeft onRight (innerRight value)) task :=
  fold_bind ..

@[simp]
theorem fromOption_some (onNone : E) :
    fromOption (I := I) onNone (some value) = of value := rfl

@[simp]
theorem fromOption_none (onNone : E) :
    fromOption (I := I) (A := A) onNone none = left onNone := rfl

end Equations

@[simp]
theorem ensures_of {A E World : Type v} {exec : Semantics I World} {world : World} {value : A}
    {post : List (Event I) → Except E A → World → Prop} :
    Ensures exec world (of value) post ↔ post [] (.ok value) world :=
  ensures_done

@[simp]
theorem ensures_left {A E World : Type v} {exec : Semantics I World} {world : World} {error : E}
    {post : List (Event I) → Except E A → World → Prop} :
    Ensures exec world (left error) post ↔ post [] (.error error) world :=
  ensures_done

theorem ensures_fold {A B E World : Type v} {exec : Semantics I World} {world : World}
    {onLeft : E → Program I B} {onRight : A → Program I B} {task : TaskEither I E A}
    {post : List (Event I) → B → World → Prop} :
    Ensures exec world (fold onLeft onRight task) post ↔
      Ensures exec world task fun earlier outcome middle =>
        (∀ value, outcome = .ok value →
          Ensures exec middle (onRight value) fun later => post (earlier ++ later)) ∧
        ∀ error, outcome = .error error →
          Ensures exec middle (onLeft error) fun later => post (earlier ++ later) := by
  rw [fold, ensures_bind]
  constructor
  · intro ensures
    refine ensures.mono fun earlier outcome middle holds => ⟨?_, ?_⟩
    · rintro value rfl
      exact holds
    · rintro error rfl
      exact holds
  · intro ensures
    refine ensures.mono fun earlier outcome middle holds => ?_
    cases outcome with
    | ok value => exact holds.1 value rfl
    | error error => exact holds.2 error rfl

end TaskEither

end Interaction
