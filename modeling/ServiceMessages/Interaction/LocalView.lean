import Mathlib.Data.List.Nodup
import ServiceMessages.Interaction.Interleaving

/-!
# What one thread sees

The commands of one thread, cut out of a schedule, are the beginning of a run
of its program: the other threads and the world only decide about the replies.
So what holds of a program however it is answered holds of every thread of
every interleaving.
-/

namespace Interaction

universe u v w

variable {I : Interface.{u}} {World Request Result A P : Type v} {Thread : Type w}

def anyReply (permitted : Event I → Prop) : Semantics I PUnit.{v + 1} :=
  fun _ command reply _ => permitted ⟨command, reply⟩

/-- The events of a schedule that matter, with the threads they belong to,
newest first. -/
def collect (pick : Event I → Option P) (trace : List (Label I Thread Request)) :
    List (Thread × P) :=
  trace.filterMap fun
    | .command executing event => (pick event).map fun picked => (executing, picked)
    | _ => none

section Collect

variable (pick : Event I → Option P) (earlier : List (Label I Thread Request))

@[simp]
theorem collect_nil : collect pick ([] : List (Label I Thread Request)) = [] := rfl

@[simp]
theorem collect_start (started : Thread) (request : Request) :
    collect pick (.start started request :: earlier) = collect pick earlier := by
  simp [collect]

@[simp]
theorem collect_drift : collect pick (.drift :: earlier) = collect pick earlier := by
  simp [collect]

theorem collect_command_of_none {event : Event I} (ignored : pick event = none)
    (executing : Thread) :
    collect pick (.command executing event :: earlier) = collect pick earlier := by
  simp [collect, ignored]

theorem collect_command_of_some {event : Event I} {picked : P} (matters : pick event = some picked)
    (executing : Thread) :
    collect pick (.command executing event :: earlier) =
      (executing, picked) :: collect pick earlier := by
  simp [collect, matters]

end Collect

variable [DecidableEq Thread]

/-- The events of one thread, oldest first. -/
def eventsOf (thread : Thread) (trace : List (Label I Thread Request)) : List (Event I) :=
  (trace.filterMap fun
    | .command executing event => if executing = thread then some event else none
    | _ => none).reverse

section EventsOf

variable (thread : Thread) (earlier : List (Label I Thread Request))

@[simp]
theorem eventsOf_nil : eventsOf thread ([] : List (Label I Thread Request)) = [] := rfl

@[simp]
theorem eventsOf_start (started : Thread) (request : Request) :
    eventsOf thread (.start started request :: earlier) = eventsOf thread earlier := by
  simp [eventsOf]

@[simp]
theorem eventsOf_drift : eventsOf thread (.drift :: earlier) = eventsOf thread earlier := by
  simp [eventsOf]

@[simp]
theorem eventsOf_command_self (event : Event I) :
    eventsOf thread (.command thread event :: earlier) = eventsOf thread earlier ++ [event] := by
  simp [eventsOf]

theorem eventsOf_command_of_ne {executing : Thread} (distinct : executing ≠ thread)
    (event : Event I) :
    eventsOf thread (.command executing event :: earlier) = eventsOf thread earlier := by
  simp [eventsOf, distinct]

theorem mem_eventsOf_iff {event : Event I} :
    event ∈ eventsOf thread earlier ↔ .command thread event ∈ earlier := by
  rw [eventsOf, List.mem_reverse, List.mem_filterMap]
  constructor
  · rintro ⟨label, membership, same⟩
    cases label with
    | start | drift => cases same
    | command executing issued =>
        obtain ⟨rfl, rfl⟩ : executing = thread ∧ issued = event := by simpa using same
        exact membership
  · intro membership
    exact ⟨_, membership, by simp⟩

end EventsOf

def Follows (system : System I World Request Result) (permitted : Event I → Prop)
    (config : Config I World Thread Request Result) : Prop :=
  ∀ thread,
    match config.threads thread with
    | none => eventsOf thread config.trace = []
    | some (request, program) =>
        Advances (anyReply permitted) .unit (system.handler request)
          (eventsOf thread config.trace) program .unit

variable {system : System I World Request Result} {permitted : Event I → Prop}
  {config later : Config I World Thread Request Result}

theorem follows_initial (world : World) :
    Follows system permitted (Config.initial world : Config I World Thread Request Result) := by
  intro thread
  rfl

theorem Follows.step
    (permits : ∀ world command reply world',
      system.exec world command reply world' → permitted ⟨command, reply⟩)
    (follows : Follows system permitted config) (step : system.Step config later) :
    Follows system permitted later := by
  intro thread
  have here := follows thread
  cases step with
  | start started request fresh =>
      by_cases same : thread = started
      · subst same
        simp only [fresh] at here
        simp only [Function.update_self, eventsOf_start, here]
        exact .refl
      · simpa [Function.update_of_ne same] using here
  | drift world drifted => simpa using here
  | command executing request command next reply world running executed =>
      by_cases same : thread = executing
      · subst same
        simp only [running] at here
        simp only [Function.update_self, eventsOf_command_self]
        exact here.trans (.call (permits _ _ _ _ executed) .refl)
      · simpa [Function.update_of_ne same, eventsOf_command_of_ne _ _ (Ne.symm same)] using here

theorem Follows.reaches
    (permits : ∀ world command reply world',
      system.exec world command reply world' → permitted ⟨command, reply⟩)
    (follows : Follows system permitted config) (reaches : system.Reaches config later) :
    Follows system permitted later := by
  induction reaches with
  | refl => exact follows
  | tail _ step inductionHypothesis => exact inductionHypothesis.step permits step

theorem Follows.advances (follows : Follows system permitted config) {thread : Thread}
    {request : Request} {program : Program I Result}
    (running : config.threads thread = some (request, program)) :
    Advances (anyReply permitted) .unit (system.handler request)
      (eventsOf thread config.trace) program .unit := by
  have here := follows thread
  rwa [running] at here

theorem Follows.runs (follows : Follows system permitted config) {thread : Thread}
    {request : Request} {result : Result} (answered : config.Answered thread request result) :
    Runs (anyReply permitted) .unit (system.handler request)
      (eventsOf thread config.trace) result .unit := by
  simpa using (follows.advances answered).runs .done

theorem Follows.eventsOf_eq_nil (follows : Follows system permitted config) {thread : Thread}
    (absent : config.threads thread = none) : eventsOf thread config.trace = [] := by
  have here := follows thread
  rwa [absent] at here

theorem System.Reaches.keeps (reaches : system.Reaches config later) {thread : Thread}
    {request : Request} {program : Program I Result}
    (running : config.threads thread = some (request, program)) :
    ∃ rest, later.threads thread = some (request, rest) := by
  induction reaches with
  | refl => exact ⟨program, running⟩
  | tail _ step inductionHypothesis =>
      obtain ⟨before, here⟩ := inductionHypothesis
      cases step with
      | start other asked fresh =>
          have distinct : thread ≠ other := by
            rintro rfl
            simp [here] at fresh
          exact ⟨before, by simpa [Function.update_of_ne distinct] using here⟩
      | command other asked command next reply world executing executed =>
          by_cases same : thread = other
          · subst same
            obtain ⟨rfl, -⟩ : asked = request ∧ _ := by simpa [here] using executing.symm
            exact ⟨next reply, by simp⟩
          · exact ⟨before, by simpa [Function.update_of_ne same] using here⟩
      | drift => exact ⟨before, here⟩

/-- The rule for facts about events: what is true of a command when it has been
executed, and is kept by every step, is true of all commands of a schedule. -/
theorem System.Reaches.events (holds : World → Event I → Prop) {world : World}
    (executed : ∀ before, system.Reaches (.initial world : Config I World Thread Request Result)
      before → ∀ command reply world', system.exec before.world command reply world' →
        holds world' ⟨command, reply⟩)
    (kept : ∀ before after, system.Reaches (.initial world : Config I World Thread Request Result)
      before → system.Step before after → ∀ event, holds before.world event →
        holds after.world event)
    (reaches : system.Reaches (.initial world) later) {thread : Thread} {event : Event I}
    (issued : .command thread event ∈ later.trace) : holds later.world event := by
  induction reaches with
  | refl => simp [Config.initial] at issued
  | tail earlier step inductionHypothesis =>
      have older := fun before => kept _ _ earlier step event (inductionHypothesis before)
      cases step with
      | start =>
          apply older
          simpa using issued
      | command other asked command next reply world' executing performed =>
          rcases List.mem_cons.mp issued with same | before
          · cases same
            exact executed _ earlier command reply world' performed
          · exact older before
      | drift =>
          apply older
          simpa using issued

section Once

variable {pick : Event I → Option P} {earlier : List (Label I Thread Request)}

theorem mem_collect_iff {thread : Thread} {picked : P} :
    (thread, picked) ∈ collect pick earlier ↔
      picked ∈ (eventsOf thread earlier).filterMap pick := by
  rw [collect, List.mem_filterMap, List.mem_filterMap]
  constructor
  · rintro ⟨label, membership, same⟩
    cases label with
    | start | drift => cases same
    | command executing event =>
        obtain ⟨picks, rfl⟩ : pick event = some picked ∧ executing = thread := by
          simpa [and_comm] using same
        exact ⟨event, (mem_eventsOf_iff _ _).mpr membership, picks⟩
  · rintro ⟨event, membership, picks⟩
    exact ⟨_, (mem_eventsOf_iff _ _).mp membership, by simp [picks]⟩

/-- If every thread does something that matters once at most, nothing of it is
done twice. -/
theorem nodup_collect
    (once : ∀ thread, ((eventsOf thread earlier).filterMap pick).length ≤ 1) :
    ((collect pick earlier).map Prod.fst).Nodup := by
  induction earlier with
  | nil => simp
  | cons label earlier inductionHypothesis =>
      have before : ∀ thread, ((eventsOf thread earlier).filterMap pick).length ≤ 1 := by
        intro thread
        refine Nat.le_trans ?_ (once thread)
        cases label with
        | start | drift => simp
        | command executing event =>
            by_cases same : executing = thread
            · subst same
              simp
            · exact Nat.le_of_eq (by rw [eventsOf_command_of_ne _ _ same])
      have unique := inductionHypothesis before
      cases label with
      | start | drift => simpa using unique
      | command executing event =>
          cases matters : pick event with
          | none => rwa [collect_command_of_none _ _ matters]
          | some picked =>
              rw [collect_command_of_some _ _ matters, List.map_cons, List.nodup_cons]
              refine ⟨?_, unique⟩
              intro already
              obtain ⟨other, membership⟩ : ∃ other, (executing, other) ∈ collect pick earlier := by
                simpa using already
              have first := List.length_pos_of_mem (mem_collect_iff.mp membership)
              have both := once executing
              rw [eventsOf_command_self, List.filterMap_append, List.length_append] at both
              have second : ([event].filterMap pick).length = 1 := by simp [matters]
              omega

end Once

end Interaction
