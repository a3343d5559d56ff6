import ServiceMessages.Interaction.Interleaving
import ServiceMessages.Interaction.TaskEither

/-!
# Protocols followed by interleaved programs

A protocol is an automaton over the events of one request: it says which
commands a request may issue next, given what it has seen so far, and knows
nothing of the world or of other requests.  When the programs of a system
conform to a protocol, every run of the system is a run of the protocol.
Invariants of the shared world are then proved once for each command, and
never for each position in a program.
-/

namespace Interaction

universe u v w

/-- A phase knows which request it belongs to. -/
structure Protocol (I : Interface.{u}) (Request Phase : Type v) where
  initial : Request → Phase
  allows : Phase → I.Command → Prop
  advance : Phase → Event I → Phase
  request : Phase → Request
  request_initial : ∀ started, request (initial started) = started
  request_advance : ∀ phase event, request (advance phase event) = request phase

variable {I : Interface.{u}} {World Request Phase Result A B : Type v} {Thread : Type w}

namespace Protocol

variable (protocol : Protocol I Request Phase) (permitted : Event I → Prop)

/-- From the given phase the program issues only commands the protocol allows,
as long as the replies are permitted ones, and ends as `post` says. -/
def Conforms (post : Phase → A → Prop) : Program I A → Phase → Prop
  | .done result, phase => post phase result
  | .call command next, phase =>
      protocol.allows phase command ∧
        ∀ reply, permitted ⟨command, reply⟩ →
          Conforms post (next reply) (protocol.advance phase ⟨command, reply⟩)

@[simp]
theorem conforms_done (post : Phase → A → Prop) (result : A) (phase : Phase) :
    protocol.Conforms permitted post (.done result) phase ↔ post phase result := Iff.rfl

theorem conforms_call (post : Phase → A → Prop) (command : I.Command)
    (next : I.Reply command → Program I A) (phase : Phase) :
    protocol.Conforms permitted post (.call command next) phase ↔
      protocol.allows phase command ∧
        ∀ reply, permitted ⟨command, reply⟩ →
          protocol.Conforms permitted post (next reply)
            (protocol.advance phase ⟨command, reply⟩) := Iff.rfl

theorem conforms_bind (post : Phase → B → Prop) (program : Program I A)
    (continuation : A → Program I B) (phase : Phase) :
    protocol.Conforms permitted post (program.bind continuation) phase ↔
      protocol.Conforms permitted
        (fun phase result => protocol.Conforms permitted post (continuation result) phase)
        program phase := by
  induction program generalizing phase with
  | done result => rfl
  | call command next inductionHypothesis =>
      simp only [Program.bind_call, conforms_call, inductionHypothesis]

variable {protocol permitted}

theorem Conforms.mono {post weaker : Phase → A → Prop} {program : Program I A}
    {phase : Phase} (conforms : protocol.Conforms permitted post program phase)
    (implies : ∀ phase result, post phase result → weaker phase result) :
    protocol.Conforms permitted weaker program phase := by
  induction program generalizing phase with
  | done result => exact implies phase result conforms
  | call command next inductionHypothesis =>
      exact ⟨conforms.1, fun reply allowed =>
        inductionHypothesis reply (conforms.2 reply allowed)⟩

/-- A program that keeps to one protocol keeps to another that follows it. -/
theorem Conforms.transfer {Phase' : Type v} {other : Protocol I Request Phase'}
    (related : Phase → Phase' → Prop)
    (allows : ∀ phase phase' command, related phase phase' → protocol.allows phase command →
      other.allows phase' command)
    (advance : ∀ phase phase' command reply, related phase phase' →
      protocol.allows phase command → permitted ⟨command, reply⟩ →
      related (protocol.advance phase ⟨command, reply⟩) (other.advance phase' ⟨command, reply⟩))
    {post : Phase → A → Prop} {program : Program I A} {phase : Phase} {phase' : Phase'}
    (conforms : protocol.Conforms permitted post program phase) (here : related phase phase') :
    other.Conforms permitted (fun phase' result => ∃ phase, related phase phase' ∧
      post phase result) program phase' := by
  induction program generalizing phase phase' with
  | done result => exact ⟨phase, here, conforms⟩
  | call command next inductionHypothesis =>
      refine ⟨allows _ _ _ here conforms.1, fun reply allowed => ?_⟩
      exact inductionHypothesis reply (conforms.2 reply allowed)
        (advance _ _ _ _ here conforms.1 allowed)

theorem conforms_fold {E : Type v} (post : Phase → B → Prop) (onLeft : E → Program I B)
    (onRight : A → Program I B) (task : TaskEither I E A) (phase : Phase) :
    protocol.Conforms permitted post (TaskEither.fold onLeft onRight task) phase ↔
      protocol.Conforms permitted
        (fun phase outcome =>
          (∀ value, outcome = .ok value →
            protocol.Conforms permitted post (onRight value) phase) ∧
          ∀ error, outcome = .error error →
            protocol.Conforms permitted post (onLeft error) phase)
        task phase := by
  rw [TaskEither.fold, conforms_bind]
  constructor
  · intro conforms
    refine conforms.mono fun phase outcome holds => ⟨?_, ?_⟩
    · rintro value rfl
      exact holds
    · rintro error rfl
      exact holds
  · intro conforms
    apply conforms.mono
    intro phase outcome holds
    cases outcome with
    | ok value => exact holds.1 value rfl
    | error error => exact holds.2 error rfl

@[simp]
theorem conforms_of {E : Type v} (post : Phase → Except E A → Prop) (value : A)
    (phase : Phase) :
    protocol.Conforms permitted post (TaskEither.of value) phase ↔ post phase (.ok value) :=
  Iff.rfl

@[simp]
theorem conforms_left {E : Type v} (post : Phase → Except E A → Prop) (error : E)
    (phase : Phase) :
    protocol.Conforms permitted post (TaskEither.left error) phase ↔ post phase (.error error) :=
  Iff.rfl

theorem Conforms.allows_of_runs {exec : Semantics I World}
    (permits : ∀ world command reply world', exec world command reply world' →
      permitted ⟨command, reply⟩)
    {post : Phase → A → Prop} {program : Program I A} {phase : Phase} {world final : World}
    {events : List (Event I)} {result : A}
    (conforms : protocol.Conforms permitted post program phase)
    (runs : Runs exec world program events result final) :
    ∀ event ∈ events, ∃ phase, protocol.allows phase event.command := by
  induction runs generalizing phase with
  | done => simp
  | call executed _ inductionHypothesis =>
      intro event membership
      rcases List.mem_cons.mp membership with rfl | later
      · exact ⟨phase, conforms.1⟩
      · exact inductionHypothesis (conforms.2 _ (permits _ _ _ _ executed)) event later

theorem Conforms.exists_run {exec : Semantics I World} {request : Request}
    (answers : ∀ world phase command, protocol.request phase = request →
      protocol.allows phase command →
      ∃ reply world', exec world command reply world' ∧ permitted ⟨command, reply⟩)
    {post : Phase → A → Prop} {program : Program I A} {phase : Phase}
    (conforms : protocol.Conforms permitted post program phase)
    (here : protocol.request phase = request) (world : World) :
    ∃ events result final, Runs exec world program events result final := by
  induction program generalizing phase world with
  | done result => exact ⟨[], result, world, .done⟩
  | call command next inductionHypothesis =>
      obtain ⟨reply, world', executed, allowed⟩ := answers world phase command here conforms.1
      obtain ⟨events, result, final, runs⟩ :=
        inductionHypothesis reply (conforms.2 reply allowed)
          ((protocol.request_advance phase _).trans here) world'
      exact ⟨_, result, final, .call executed runs⟩

variable [DecidableEq Thread]

def phaseOf (protocol : Protocol I Request Phase) :
    List (Label I Thread Request) → Thread → Option Phase
  | [], _ => none
  | .start started request :: earlier, thread =>
      if started = thread then some (protocol.initial request)
      else phaseOf protocol earlier thread
  | .command executing event :: earlier, thread =>
      if executing = thread then
        (phaseOf protocol earlier thread).map fun phase => protocol.advance phase event
      else phaseOf protocol earlier thread
  | .drift :: earlier, thread => phaseOf protocol earlier thread

section PhaseOf

variable (protocol) (earlier : List (Label I Thread Request)) (thread : Thread)

@[simp]
theorem phaseOf_nil : protocol.phaseOf [] thread = none := rfl

@[simp]
theorem phaseOf_start_self (request : Request) :
    protocol.phaseOf (.start thread request :: earlier) thread =
      some (protocol.initial request) := by
  simp [phaseOf]

theorem phaseOf_start_of_ne {other : Thread} (distinct : other ≠ thread) (request : Request) :
    protocol.phaseOf (.start other request :: earlier) thread =
      protocol.phaseOf earlier thread := by
  simp [phaseOf, distinct]

@[simp]
theorem phaseOf_command_self (event : Event I) :
    protocol.phaseOf (.command thread event :: earlier) thread =
      (protocol.phaseOf earlier thread).map fun phase => protocol.advance phase event := by
  simp [phaseOf]

theorem phaseOf_command_of_ne {other : Thread} (distinct : other ≠ thread) (event : Event I) :
    protocol.phaseOf (.command other event :: earlier) thread =
      protocol.phaseOf earlier thread := by
  simp [phaseOf, distinct]

@[simp]
theorem phaseOf_drift :
    protocol.phaseOf (.drift :: earlier) thread = protocol.phaseOf earlier thread := rfl

end PhaseOf

/-- A world together with the schedule that led to it. -/
abbrev Moment (I : Interface.{u}) (World Request : Type v) (Thread : Type w) :=
  World × List (Label I Thread Request)

/-- One step of the protocol itself: the programs are gone, every started
request may issue any command its phase allows. -/
inductive Step (protocol : Protocol I Request Phase) (exec : Semantics I World)
    (drift : World → World → Prop) :
    Moment I World Request Thread → Moment I World Request Thread → Prop where
  | start {world trace} (thread request) :
      protocol.phaseOf trace thread = none →
      Step protocol exec drift (world, trace) (world, .start thread request :: trace)
  | command {world trace} (thread phase command reply world') :
      protocol.phaseOf trace thread = some phase →
      protocol.allows phase command →
      exec world command reply world' →
      Step protocol exec drift (world, trace) (world', .command thread ⟨command, reply⟩ :: trace)
  | drift {world trace} (world') :
      drift world world' →
      Step protocol exec drift (world, trace) (world', .drift :: trace)

/-- Every thread's program conforms to the protocol from the phase the thread
is in, and threads that have not been started are in no phase. -/
def Governs (protocol : Protocol I Request Phase) (permitted : Event I → Prop)
    (post : Request → Phase → Result → Prop)
    (config : Config I World Thread Request Result) : Prop :=
  ∀ thread,
    match config.threads thread with
    | none => protocol.phaseOf config.trace thread = none
    | some (request, program) =>
        ∃ phase, protocol.phaseOf config.trace thread = some phase ∧
          protocol.request phase = request ∧
          protocol.Conforms permitted (post request) program phase

theorem governs_initial (post : Request → Phase → Result → Prop) (world : World) :
    protocol.Governs permitted post
      (Config.initial world : Config I World Thread Request Result) := by
  intro thread
  rfl

theorem Governs.phaseOf_eq_none {post : Request → Phase → Result → Prop}
    {config : Config I World Thread Request Result}
    (governs : protocol.Governs permitted post config) {thread : Thread}
    (absent : config.threads thread = none) :
    protocol.phaseOf config.trace thread = none := by
  have here := governs thread
  rwa [absent] at here

theorem Governs.conforms {post : Request → Phase → Result → Prop}
    {config : Config I World Thread Request Result}
    (governs : protocol.Governs permitted post config) {thread : Thread}
    {request : Request} {program : Program I Result}
    (running : config.threads thread = some (request, program)) :
    ∃ phase, protocol.phaseOf config.trace thread = some phase ∧
      protocol.request phase = request ∧
      protocol.Conforms permitted (post request) program phase := by
  have here := governs thread
  rwa [running] at here

section Refinement

variable {system : System I World Request Result} {post : Request → Phase → Result → Prop}
  {config later : Config I World Thread Request Result}

/-- A step of a governed system is a step of the protocol, and leads to a
configuration that is governed again. -/
theorem Governs.step
    (permits : ∀ world command reply world',
      system.exec world command reply world' → permitted ⟨command, reply⟩)
    (handlers : ∀ request, protocol.Conforms permitted (post request)
      (system.handler request) (protocol.initial request))
    (governs : protocol.Governs permitted post config) (step : system.Step config later) :
    protocol.Step system.exec system.drift (config.world, config.trace)
        (later.world, later.trace) ∧
      protocol.Governs permitted post later := by
  cases step with
  | start thread request absent =>
      refine ⟨.start thread request (governs.phaseOf_eq_none absent), ?_⟩
      intro other
      by_cases same : other = thread
      · subst same
        simp [handlers request, protocol.request_initial]
      · simpa [Function.update_of_ne same, phaseOf_start_of_ne _ _ _ (Ne.symm same)]
          using governs other
  | command thread request command next reply world running executed =>
      obtain ⟨phase, here, served, allowed, conforms⟩ := governs.conforms running
      refine ⟨.command thread phase command reply world here allowed executed, ?_⟩
      intro other
      by_cases same : other = thread
      · subst same
        simpa [here, protocol.request_advance, served] using
          conforms reply (permits _ _ _ _ executed)
      · simpa [Function.update_of_ne same, phaseOf_command_of_ne _ _ _ (Ne.symm same)]
          using governs other
  | drift world drifted =>
      exact ⟨.drift world drifted, fun other => by simpa using governs other⟩

/-- Every run of a governed system is a run of the protocol. -/
theorem Governs.reaches
    (permits : ∀ world command reply world',
      system.exec world command reply world' → permitted ⟨command, reply⟩)
    (handlers : ∀ request, protocol.Conforms permitted (post request)
      (system.handler request) (protocol.initial request))
    (governs : protocol.Governs permitted post config) (reaches : system.Reaches config later) :
    Relation.ReflTransGen (protocol.Step system.exec system.drift)
        (config.world, config.trace) (later.world, later.trace) ∧
      protocol.Governs permitted post later := by
  induction reaches with
  | refl => exact ⟨.refl, governs⟩
  | tail _ step inductionHypothesis =>
      obtain ⟨taken, governed⟩ := inductionHypothesis.2.step permits handlers step
      exact ⟨inductionHypothesis.1.tail taken, governed⟩

theorem Governs.answered (governs : protocol.Governs permitted post config)
    {thread : Thread} {request : Request} {result : Result}
    (answered : config.Answered thread request result) :
    ∃ phase, protocol.phaseOf config.trace thread = some phase ∧
      protocol.request phase = request ∧ post request phase result :=
  governs.conforms answered

end Refinement

/-- The rule for invariants of protocol runs: one obligation for a start, one
for a command, one for the drift of the world. -/
theorem invariant {exec : Semantics I World} {drift : World → World → Prop}
    (invariant : World → List (Label I Thread Request) → Prop)
    (start : ∀ world trace thread request, invariant world trace →
      protocol.phaseOf trace thread = none →
      invariant world (.start thread request :: trace))
    (command : ∀ world trace thread phase command reply world', invariant world trace →
      protocol.phaseOf trace thread = some phase → protocol.allows phase command →
      exec world command reply world' →
      invariant world' (.command thread ⟨command, reply⟩ :: trace))
    (drifts : ∀ world trace world', invariant world trace → drift world world' →
      invariant world' (.drift :: trace))
    {moment later : Moment I World Request Thread}
    (run : Relation.ReflTransGen (protocol.Step exec drift) moment later)
    (initially : invariant moment.1 moment.2) : invariant later.1 later.2 := by
  induction run with
  | refl => exact initially
  | tail _ step inductionHypothesis =>
      cases step with
      | start thread request absent =>
          exact start _ _ thread request inductionHypothesis absent
      | command thread phase command' reply world' here allowed executed =>
          exact command _ _ thread phase command' reply world' inductionHypothesis
            here allowed executed
      | drift world' drifted => exact drifts _ _ world' inductionHypothesis drifted

section PhaseCases

variable {earlier : List (Label I Thread Request)} {started thread : Thread}

theorem phaseOf_start_cases {request : Request} {phase : Phase}
    (here : protocol.phaseOf (.start started request :: earlier) thread = some phase) :
    thread = started ∧ phase = protocol.initial request ∨
      thread ≠ started ∧ protocol.phaseOf earlier thread = some phase := by
  by_cases same : thread = started
  · subst same
    exact .inl ⟨rfl, by simpa using here.symm⟩
  · rw [phaseOf_start_of_ne _ _ _ (Ne.symm same)] at here
    exact .inr ⟨same, here⟩

theorem phaseOf_command_cases {event : Event I} {phase : Phase}
    (here : protocol.phaseOf (.command started event :: earlier) thread = some phase) :
    thread = started ∧ (∃ before, protocol.phaseOf earlier thread = some before ∧
        phase = protocol.advance before event) ∨
      thread ≠ started ∧ protocol.phaseOf earlier thread = some phase := by
  by_cases same : thread = started
  · subst same
    obtain ⟨before, known, advanced⟩ := by simpa using here
    exact .inl ⟨rfl, before, known, advanced.symm⟩
  · rw [phaseOf_command_of_ne _ _ _ (Ne.symm same)] at here
    exact .inr ⟨same, here⟩

end PhaseCases

/-- The thread-modular rule: an invariant of the world together with one of
each phase.  A command keeps both for the thread that issues it, and whatever
another thread relies on stays true. -/
theorem modular_invariant {exec : Semantics I World} {drift : World → World → Prop}
    (shared : World → Prop) (own : World → Phase → Prop)
    (start : ∀ world request, shared world → own world (protocol.initial request))
    (command : ∀ world phase command reply world', shared world → own world phase →
      protocol.allows phase command → exec world command reply world' →
      shared world' ∧ own world' (protocol.advance phase ⟨command, reply⟩) ∧
        ∀ other, own world other → own world' other)
    (drifts : ∀ world world', shared world → drift world world' →
      shared world' ∧ ∀ other, own world other → own world' other)
    {moment later : Moment I World Request Thread}
    (run : Relation.ReflTransGen (protocol.Step exec drift) moment later)
    (initially : shared moment.1 ∧
      ∀ thread phase, protocol.phaseOf moment.2 thread = some phase → own moment.1 phase) :
    shared later.1 ∧
      ∀ thread phase, protocol.phaseOf later.2 thread = some phase → own later.1 phase := by
  refine Protocol.invariant
    (fun world trace => shared world ∧
      ∀ thread phase, protocol.phaseOf trace thread = some phase → own world phase)
    ?_ ?_ ?_ run initially
  · rintro world trace started request ⟨sharedHolds, ownHolds⟩ _
    refine ⟨sharedHolds, fun thread phase here => ?_⟩
    rcases phaseOf_start_cases here with ⟨_, rfl⟩ | ⟨_, here⟩
    · exact start world request sharedHolds
    · exact ownHolds thread phase here
  · rintro world trace started before issued reply world' ⟨sharedHolds, ownHolds⟩ known allowed
      executed
    obtain ⟨sharedAfter, ownAfter, stable⟩ :=
      command world before issued reply world' sharedHolds (ownHolds _ _ known) allowed executed
    refine ⟨sharedAfter, fun thread phase here => ?_⟩
    rcases phaseOf_command_cases here with ⟨rfl, other, knownToo, rfl⟩ | ⟨_, here⟩
    · rw [known] at knownToo
      cases knownToo
      exact ownAfter
    · exact stable phase (ownHolds thread phase here)
  · rintro world trace world' ⟨sharedHolds, ownHolds⟩ drifted
    obtain ⟨sharedAfter, stable⟩ := drifts world world' sharedHolds drifted
    exact ⟨sharedAfter, fun thread phase here => stable phase (ownHolds thread phase here)⟩

end Protocol

end Interaction
