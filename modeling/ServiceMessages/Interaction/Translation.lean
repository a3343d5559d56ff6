import ServiceMessages.Interaction.Interpretation

/-!
# Translating commands

A translation issues another command in place of every command of a program, and
translates the reply back.  What the translation adds to the commands is
unknown to the program.
-/

namespace Interaction

universe u

variable {I J K : Interface.{u}} {A B E F : Type u}

/-- Other commands in place of those of a program. -/
structure Translation (I J : Interface.{u}) where
  command : I.Command → J.Command
  reply : ∀ issued, J.Reply (command issued) → I.Reply issued

def Translation.trans (translation : Translation I J) (next : Translation J K) :
    Translation I K where
  command issued := next.command (translation.command issued)
  reply issued reply := translation.reply issued (next.reply (translation.command issued) reply)

namespace Program

def translate (translation : Translation I J) : Program I A → Program J A
  | .done result => .done result
  | .call command next =>
      .call (translation.command command) fun reply =>
        translate translation (next (translation.reply command reply))

variable (translation : Translation I J)

@[simp]
theorem translate_call (command : I.Command) (next : I.Reply command → Program I A) :
    (Program.call command next).translate translation =
      .call (translation.command command) fun reply =>
        (next (translation.reply command reply)).translate translation := rfl

theorem translate_bind (program : Program I A) (continuation : A → Program I B) :
    (program.bind continuation).translate translation =
      (program.translate translation).bind fun result =>
        (continuation result).translate translation := by
  induction program with
  | done result => rfl
  | call command next inductionHypothesis =>
      simp only [bind_call, translate_call, inductionHypothesis]

theorem translate_translate (next : Translation J K) (program : Program I A) :
    (program.translate translation).translate next =
      program.translate (translation.trans next) := by
  induction program with
  | done result => rfl
  | call command continuation inductionHypothesis =>
      simp only [translate_call, inductionHypothesis]
      rfl

/-- A component and the programs below it are translated together, when the
program of a translated command is the translated program of the command. -/
theorem translate_interpret {I' J' : Interface.{u}} {above : Translation I I'}
    {below : Translation J J'}
    {implement : ∀ command, Program J (I.Reply command)}
    {implement' : ∀ command, Program J' (I'.Reply command)}
    (implements : ∀ command,
      (implement' (above.command command)).bind (fun reply => .done (above.reply command reply)) =
        (implement command).translate below)
    (program : Program I A) :
    (program.interpret implement).translate below =
      (program.translate above).interpret implement' := by
  induction program with
  | done result => rfl
  | call command next inductionHypothesis =>
      calc ((Program.call command next).interpret implement).translate below
        _ = ((implement command).translate below).bind fun reply =>
              ((next reply).interpret implement).translate below := translate_bind ..
        _ = ((implement' (above.command command)).bind fun reply =>
              .done (above.reply command reply)).bind fun reply =>
                ((next reply).translate above).interpret implement' := by
            rw [implements]
            congr 1
            funext reply
            exact inductionHypothesis reply
        _ = ((Program.call command next).translate above).interpret implement' := bind_assoc ..

end Program

namespace TaskEither

variable (translation : Translation I J)

theorem translate_fold (onLeft : E → Program I B) (onRight : A → Program I B)
    (task : TaskEither I E A) :
    (fold onLeft onRight task).translate translation =
      fold (fun error => (onLeft error).translate translation)
        (fun value => (onRight value).translate translation) (task.translate translation) := by
  rw [fold, Program.translate_bind]
  unfold fold
  congr 1
  funext outcome
  cases outcome <;> rfl

theorem translate_fromEither (outcome : Except E A) :
    (fromEither outcome : TaskEither I E A).translate translation = fromEither outcome := rfl

theorem translate_fromOption (onNone : E) (found : Option A) :
    (fromOption onNone found : TaskEither I E A).translate translation =
      fromOption onNone found := by
  cases found <;> rfl

theorem translate_fromPredicate (predicate : A → Bool) (onFalse : E) (value : A) :
    (fromPredicate predicate onFalse value : TaskEither I E A).translate translation =
      fromPredicate predicate onFalse value := by
  unfold fromPredicate
  split <;> rfl

theorem translate_chain (next : A → TaskEither I E B) (task : TaskEither I E A) :
    (chain next task).translate translation =
      chain (fun value => (next value).translate translation) (task.translate translation) :=
  translate_fold ..

theorem translate_map (transform : A → B) (task : TaskEither I E A) :
    (map transform task).translate translation = map transform (task.translate translation) :=
  translate_fold ..

theorem translate_mapLeft (transform : E → F) (task : TaskEither I E A) :
    (mapLeft transform task).translate translation =
      mapLeft transform (task.translate translation) :=
  translate_fold ..

theorem translate_orElse (onLeft : E → TaskEither I F A) (task : TaskEither I E A) :
    (orElse onLeft task).translate translation =
      orElse (fun error => (onLeft error).translate translation) (task.translate translation) :=
  translate_fold ..

theorem translate_mapLeftM (transform : E → Program I F) (task : TaskEither I E A) :
    (mapLeftM transform task).translate translation =
      mapLeftM (fun error => (transform error).translate translation)
        (task.translate translation) := by
  unfold mapLeftM
  simp only [translate_fold, Program.translate_bind]
  rfl

theorem translate_mapM (transform : A → Program I B) (task : TaskEither I E A) :
    (mapM transform task).translate translation =
      mapM (fun value => (transform value).translate translation) (task.translate translation) := by
  unfold mapM
  simp only [translate_fold, Program.translate_bind]
  rfl

theorem translate_sequencePar (firstCompletesFirst : Bool) (first : TaskEither I E A)
    (second : TaskEither I E B) :
    (sequencePar firstCompletesFirst first second).translate translation =
      sequencePar firstCompletesFirst (first.translate translation)
        (second.translate translation) := by
  unfold sequencePar
  cases firstCompletesFirst
  · simp only [Bool.false_eq_true, ↓reduceIte, Program.translate_bind, translate_fromEither]
  · simp only [↓reduceIte, Program.translate_bind, translate_fromEither]

theorem translate_toUnion (task : TaskEither I A A) :
    (toUnion task).translate translation = toUnion (task.translate translation) :=
  translate_fold ..

end TaskEither

end Interaction
