import ServiceMessages.Interaction.Protocol

/-!
# Deterministic environments and pairs of runs

A reaction answers every command by a function of the world and of the commands
that were issued before.  Under a reaction a program has one run, and two runs
from related worlds can be compared: command by command while they are in
lockstep, and request by request over a whole sequence.
-/

namespace Interaction

universe u v

/-- The answer to a command and the world after it, given the earlier commands
of the same program, newest first. -/
abbrev Reaction (I : Interface.{u}) (World : Type v) :=
  List I.Command → World → (command : I.Command) → I.Reply command × World

namespace Program

variable {I : Interface.{u}} {World A : Type v}

def serve (react : Reaction I World) (issued : List I.Command) (world : World) :
    Program I A → A × World
  | .done result => (result, world)
  | .call command next =>
      let (reply, world') := react issued world command
      serve react (command :: issued) world' (next reply)

@[simp]
theorem serve_done (react : Reaction I World) (issued : List I.Command) (world : World)
    (result : A) : serve react issued world (.done result) = (result, world) := rfl

@[simp]
theorem serve_call (react : Reaction I World) (issued : List I.Command) (world : World)
    (command : I.Command) (next : I.Reply command → Program I A) :
    serve react issued world (.call command next) =
      serve react (command :: issued) (react issued world command).2
        (next (react issued world command).1) := rfl

theorem runs_serve {exec : Semantics I World} {react : Reaction I World}
    (executes : ∀ issued world command,
      exec world command (react issued world command).1 (react issued world command).2)
    (program : Program I A) (issued : List I.Command) (world : World) :
    ∃ events, Runs exec world program events (serve react issued world program).1
      (serve react issued world program).2 := by
  induction program generalizing issued world with
  | done result => exact ⟨[], .done⟩
  | call command next inductionHypothesis =>
      obtain ⟨events, runs⟩ := inductionHypothesis (react issued world command).1
        (command :: issued) (react issued world command).2
      exact ⟨_, .call (executes issued world command) runs⟩

end Program

section Lockstep

variable {I : Interface.{u}} {World Request Phase Result A : Type v}

/-- Two runs of a conforming program that start in related worlds end in
related worlds with the same result, if every allowed command receives the same
answer in related worlds and keeps them related. -/
theorem Protocol.Conforms.lockstep {protocol : Protocol I Request Phase}
    {permitted : Event I → Prop} {post : Phase → A → Prop} {react : Reaction I World}
    (related : Phase → World → World → Prop)
    (agree : ∀ phase issued first second command, related phase first second →
      protocol.allows phase command →
        (react issued second command).1 = (react issued first command).1 ∧
        permitted ⟨command, (react issued first command).1⟩ ∧
        related (protocol.advance phase ⟨command, (react issued first command).1⟩)
          (react issued first command).2 (react issued second command).2)
    {program : Program I A} {phase : Phase} {first second : World}
    (conforms : protocol.Conforms permitted post program phase)
    (initially : related phase first second) (issued : List I.Command) :
    (program.serve react issued first).1 = (program.serve react issued second).1 ∧
      ∃ phase, related phase (program.serve react issued first).2
        (program.serve react issued second).2 := by
  induction program generalizing phase first second issued with
  | done result => exact ⟨rfl, phase, initially⟩
  | call command next inductionHypothesis =>
      obtain ⟨allowed, conforms⟩ := conforms
      obtain ⟨same, permits, after⟩ := agree phase issued first second command initially allowed
      rw [Program.serve_call, Program.serve_call, same]
      exact inductionHypothesis _ (conforms _ permits) after _

end Lockstep

section Sequence

variable {I : Interface.{u}} {World Input Output : Type v}

def serveAll (serve : World → Input → Output × World) :
    World → List Input → List Output × World
  | world, [] => ([], world)
  | world, input :: rest =>
      let (output, world') := serve world input
      let (outputs, final) := serveAll serve world' rest
      (output :: outputs, final)

/-- The unwinding rule: what holds of every single request holds of a sequence. -/
theorem unwinding {serve : World → Input → Output × World} {equivalent : World → World → Prop}
    {admissible : Input → Prop}
    (single : ∀ first second input, admissible input → equivalent first second →
      (serve first input).1 = (serve second input).1 ∧
        equivalent (serve first input).2 (serve second input).2)
    {first second : World} (initially : equivalent first second) {inputs : List Input}
    (admitted : ∀ input ∈ inputs, admissible input) :
    (serveAll serve first inputs).1 = (serveAll serve second inputs).1 ∧
      equivalent (serveAll serve first inputs).2 (serveAll serve second inputs).2 := by
  induction inputs generalizing first second with
  | nil => exact ⟨rfl, initially⟩
  | cons input rest inductionHypothesis =>
      obtain ⟨output, after⟩ := single first second input (admitted input List.mem_cons_self)
        initially
      obtain ⟨outputs, afterAll⟩ := inductionHypothesis after
        fun later membership => admitted later (List.mem_cons_of_mem _ membership)
      exact ⟨congrArg₂ List.cons output outputs, afterAll⟩

end Sequence

end Interaction
