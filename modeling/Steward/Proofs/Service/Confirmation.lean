import Steward.Proofs.Service.Journal
import Steward.Proofs.Session.Polling

/-!
# Starts and stops are confirmed

A supervisor is believed only when it is asked.  Which command an operation
gives follows from one query, the answer to a command only says whether the
operation goes on, and whether the service has started or stopped is learnt
from queries made after the command.  A course says all of this about the calls
of an operation, its result and the session it ends in.
-/

namespace Steward

variable {α β γ ε ε' κ : Type}

/-! ## Courses -/

/-- What may come of an operation in a session: its calls, its result and the session after it. -/
abbrev Course (α κ ε β : Type) :=
  Session (World α) → List κ → Except ε β → Session (World α) → Prop

namespace Course

/-- Nothing more is called, and the result is the given one. -/
inductive Ends (outcome : Except ε β) : Course α κ ε β
  | here {session : Session (World α)} : Ends outcome session [] outcome session

/-- One request is made, and the rest depends on its answer. -/
inductive Asks (note : Except ε' γ → κ) (request : Call (World α) ε' γ)
    (next : Except ε' γ → Course α κ ε β) : Course α κ ε β
  | asked {session after final : Session (World α)} {answer : Except ε' γ} {calls : List κ}
      {result : Except ε β} (answered : session.exchange request = (answer, after))
      (onward : next answer after calls result final) :
      Asks note request next session (note answer :: calls) result final

/-- The course depends on the files that are there. -/
def Looks (course : FileSystem → Course α κ ε β) : Course α κ ε β := fun session =>
  course session.world.files session

end Course

/-- The calls recorded in a session, oldest first. -/
def Session.calls (session : Session (World (α × Journal κ))) : List κ :=
  session.journal.map Line.call

/-- Whatever session a recorded computation is run in, it takes a course. -/
def Act.Takes (act : Act (World (α × Journal κ)) ε β) (course : Course α κ ε β) : Prop :=
  ∀ session, ∃ calls, (act session).2.calls = session.calls ++ calls ∧
    course (session.through World.unrecorded) calls (act session).1
      ((act session).2.through World.unrecorded)

namespace Act.Takes

theorem pure (value : β) :
    Act.Takes (pure value : Act (World (α × Journal κ)) ε β) (Course.Ends (.ok value)) :=
  fun _ => ⟨[], (List.append_nil _).symm, .here⟩

theorem throw (failure : ε) :
    Act.Takes (throw failure : Act (World (α × Journal κ)) ε β) (Course.Ends (.error failure)) :=
  fun _ => ⟨[], (List.append_nil _).symm, .here⟩

/-- A recorded request is one call, and what follows follows its answer. -/
theorem attempt_bind (note : Except ε' γ → κ) (request : Call (World α) ε' γ)
    {next : Except ε' γ → Act (World (α × Journal κ)) ε β}
    {course : Except ε' γ → Course α κ ε β}
    (onward : ∀ answer, Act.Takes (next answer) (course answer)) :
    Act.Takes (Act.attempt (Exchange.recorded note request) >>= next)
      (Course.Asks note request course) := by
  intro session
  have plain := Session.exchange_through (Exchange.recorded_refines note request) session
  have journal := Session.journal_exchange note request session
  rw [Act.bind_apply, Act.attempt_apply]
  generalize session.exchange (request.recorded note) = left at plain journal
  obtain ⟨answer, after⟩ := left
  obtain ⟨calls, grown, taken⟩ := onward answer after
  refine ⟨note answer :: calls, ?_, .asked plain taken⟩
  rw [grown, Session.calls, journal, List.map_append, List.append_assoc]
  rfl

/-- What is done next may depend on the files. -/
theorem files_bind {next : FileSystem → Act (World (α × Journal κ)) ε β}
    {course : FileSystem → Course α κ ε β}
    (onward : ∀ files, Act.Takes (next files) (course files)) :
    Act.Takes (Act.files >>= next) (Course.Looks course) :=
  fun session => onward session.world.files session

theorem ite {condition : Prop} [Decidable condition] {act other : Act (World (α × Journal κ)) ε β}
    {course course' : Course α κ ε β} (positive : Act.Takes act course)
    (negative : Act.Takes other course') :
    Act.Takes (if condition then act else other) (if condition then course else course') := by
  split
  · exact positive
  · exact negative

end Act.Takes

namespace Controller

/-! ## Waiting for an answer -/

/-- Whether the answer to a query tells what is waited for. -/
def Tells (wanted : Liveness → Bool) (answer : Except ToolError Liveness) : Prop :=
  ∃ liveness, answer = .ok liveness ∧ wanted liveness = true

/-- The queries that were answered so. -/
def queries (controller : Controller α) (answers : List (Except ToolError Liveness)) :
    List SupervisorCall :=
  answers.map (.query controller.name)

/-- No answer tells what is waited for. -/
def Silent (wanted : Liveness → Bool) (answers : List (Except ToolError Liveness)) : Prop :=
  ∀ answer ∈ answers, ¬Tells wanted answer

/-- The last of some answers is the first to tell what is waited for. -/
def TellsAtLast (wanted : Liveness → Bool) (answers : List (Except ToolError Liveness)) : Prop :=
  ∃ front last, answers = front ++ [last] ∧ Tells wanted last ∧ Silent wanted front

/-- How a wait ends that began in a session, by the answers to its queries.  It crashes only before
a pause whose end the clock cannot tell. -/
inductive Waits (wanted : Liveness → Option β) (schedule : Schedule) (crash : ε)
    (begun : Session (World α)) (answers : List (Except ToolError Liveness)) :
    Except ε (Outcome β) → Session (World α) → Prop
  | ready {value : β} {final : Session (World α)}
      (told : TellsAtLast (fun liveness => (wanted liveness).isSome) answers) :
      Waits wanted schedule crash begun answers (.ok (.ready value)) final
  | timedOut {attempts : UInt32} {elapsed : Nat} {final : Session (World α)}
      (silent : Silent (fun liveness => (wanted liveness).isSome) answers)
      (late : begun.now + schedule.timeout ≤ final.now) :
      Waits wanted schedule crash begun answers (.ok (.timedOut attempts elapsed)) final
  | cancelled {attempts : UInt32} {final : Session (World α)}
      (silent : Silent (fun liveness => (wanted liveness).isSome) answers)
      (fired : final.isCancelled = true) :
      Waits wanted schedule crash begun answers (.ok (.cancelled attempts)) final
  | crashed {final : Session (World α)}
      (silent : Silent (fun liveness => (wanted liveness).isSome) answers)
      (beyond : begun.horizon < Session.wakeAfter schedule begun.now final) :
      Waits wanted schedule crash begun answers (.error crash) final

section Waiting

variable (controller : Controller α) {wanted : Liveness → Option β}
  {answer : Except ToolError Liveness} {answers : List (Except ToolError Liveness)}

theorem tells_iff :
    Tells (fun liveness => (wanted liveness).isSome) answer ↔
      ∃ value, answer.toOption.bind wanted = some value := by
  cases answer with
  | ok liveness => simp [Tells, Except.toOption, Option.isSome_iff_exists]
  | error cause => simp [Tells, Except.toOption]

theorem not_tells (pending : answer.toOption.bind wanted = none) :
    ¬Tells (fun liveness => (wanted liveness).isSome) answer := by
  rw [tells_iff]
  rintro ⟨value, told⟩
  rw [pending] at told
  cases told

theorem Silent.concat {wanted : Liveness → Bool} (silent : Silent wanted answers)
    (still : ¬Tells wanted answer) : Silent wanted (answers ++ [answer]) := by
  intro other member
  rcases List.mem_append.1 member with earlier | last
  · exact silent other earlier
  · obtain rfl := List.mem_singleton.1 last
    exact still

theorem queries_concat (answers : List (Except ToolError Liveness))
    (answer : Except ToolError Liveness) :
    controller.queries (answers ++ [answer]) =
      controller.queries answers ++ [.query controller.name answer] := by
  simp [queries]

/-- A recorded probe makes one query. -/
theorem recorded_probe (wanted : Liveness → Option β) (attempt : UInt32)
    (session : Session (World (α × Journal SupervisorCall))) :
    ∃ answer after, session.exchange (controller.recorded.probe wanted attempt) =
        (.ok (answer.toOption.bind wanted), after) ∧
      after.calls = session.calls ++ [.query controller.name answer] := by
  rcases answered : session.exchange (Exchange.recorded (.query controller.name)
    (controller.supervisor.query controller.name)) with ⟨answer, after⟩
  have queried : session.exchange
      (controller.recorded.supervisor.query controller.recorded.name).run = (answer, after) :=
    answered
  refine ⟨answer, after, ?_, ?_⟩
  · rw [probe_eq, Session.exchange_map, queried]
    rfl
  · rw [Session.calls, Session.journal_of_exchange _ answered, List.map_append]
    rfl

/-- A poll comes only through sessions in which nothing has been told. -/
theorem silent_of_polled {overrun : Nat → Option ServiceError} {schedule : Schedule} {started : Nat}
    {first attempts : UInt32} {origin session : Session (World (α × Journal SupervisorCall))}
    (polled : Session.Polled overrun schedule (controller.recorded.probe wanted) started first
      origin attempts session) :
    ∃ answers, session.calls = origin.calls ++ controller.queries answers ∧
      Silent (fun liveness => (wanted liveness).isSome) answers ∧ origin.now ≤ session.now := by
  apply polled.keeps (P := fun session => ∃ answers,
    session.calls = origin.calls ++ controller.queries answers ∧
      Silent (fun liveness => (wanted liveness).isSome) answers ∧ origin.now ≤ session.now)
  · exact ⟨[], (List.append_nil _).symm, nofun, Nat.le_refl _⟩
  · rintro attempts session ⟨answers, calls, silent, later⟩ pending
    obtain ⟨answer, after, probed, journal⟩ :=
      controller.recorded_probe wanted (attempts + 1) session
    have forward := Session.now_le_exchange session
      (controller.recorded.probe wanted (attempts + 1))
    rw [probed] at pending forward
    rw [Session.probed, probed]
    refine ⟨answers ++ [answer], ?_, silent.concat (not_tells (Except.ok.inj pending)),
      Nat.le_trans later forward⟩
    rw [journal, calls, queries_concat, List.append_assoc]
  · rintro session span ⟨answers, calls, silent, later⟩
    refine ⟨answers, calls, silent, Nat.le_trans later ?_⟩
    simp only [Session.rest]
    omega

/-- A poll asks queries until one tells what is waited for, the time is over, the token fires or the
next pause is too long. -/
theorem poll_waits (wanted : Liveness → Option β) (crash : ServiceError) (schedule : Schedule)
    (session : Session (World (α × Journal SupervisorCall))) :
    ∃ answers result final,
      session.poll (session.overrun crash) schedule (controller.recorded.probe wanted) =
          (result, final) ∧
        final.calls = session.calls ++ controller.queries answers ∧
          Waits wanted schedule crash session answers result final := by
  obtain ⟨attempts, last, polled, ended⟩ :=
    session.poll_ends (session.overrun crash) schedule (controller.recorded.probe wanted)
  obtain ⟨answers, calls, silent, later⟩ := controller.silent_of_polled polled
  obtain ⟨answer, after, probed, journal⟩ := controller.recorded_probe wanted (attempts + 1) last
  have forward := Session.now_le_exchange last (controller.recorded.probe wanted (attempts + 1))
  have reached : Session.probed (controller.recorded.probe wanted) attempts last = after := by
    rw [Session.probed, probed]
  have more : after.calls = session.calls ++ controller.queries (answers ++ [answer]) := by
    rw [journal, calls, queries_concat, List.append_assoc]
  rw [probed] at forward
  generalize session.poll (session.overrun crash) schedule (controller.recorded.probe wanted) =
    left at ended ⊢
  cases ended with
  | cancelled fired => exact ⟨answers, _, _, rfl, calls, .cancelled silent fired⟩
  | failed live told =>
    rw [probed] at told
    cases told
  | ready live told =>
    rw [probed] at told
    rw [reached]
    exact ⟨answers ++ [answer], _, _, rfl, more,
      .ready ⟨answers, answer, rfl, tells_iff.2 ⟨_, Except.ok.inj told⟩, silent⟩⟩
  | timedOut live told late =>
    rw [probed] at told
    rw [reached] at late ⊢
    refine ⟨answers ++ [answer], _, _, rfl, more,
      .timedOut (silent.concat (not_tells (Except.ok.inj told))) ?_⟩
    dsimp only at forward
    omega
  | crashed live told early untold =>
    rw [probed] at told
    rw [reached] at untold ⊢
    obtain ⟨beyond, rfl⟩ := Session.overrun_eq_some_iff.1 untold
    exact ⟨answers ++ [answer], _, _, rfl, more,
      .crashed (silent.concat (not_tells (Except.ok.inj told))) beyond⟩
  | disturbed live told early room disturbed =>
    rw [probed] at told
    rw [reached] at disturbed ⊢
    refine ⟨answers ++ [answer], _, _, rfl, ?_,
      .cancelled (silent.concat (not_tells (Except.ok.inj told)))
        (Session.isCancelled_restFor disturbed)⟩
    rw [Session.calls, Session.journal, Session.world_restFor]
    exact more

end Waiting

/-! ## Discipline -/

/-- What the answers to the queries after a command make of an operation: it is completed exactly
when the last answer is the first to tell what is waited for, and otherwise it ran out of time, the
token fired, or it crashed before a pause whose end the clock cannot tell. -/
structure Confirmed (wanted : Liveness → Bool) (schedule : Schedule) (late halted : ServiceError)
    (begun : Session (World α)) (answers : List (Except ToolError Liveness))
    (result : Except ServiceError Transition) (final : Session (World α)) : Prop where
  ended : result = .ok .completed ∨ result = .error late ∨ result = .error halted ∨
    result = .error .crashed
  completed : result = .ok .completed ↔ TellsAtLast wanted answers
  late : result = .error late → Silent wanted answers ∧ begun.now + schedule.timeout ≤ final.now
  halted : result = .error halted → Silent wanted answers ∧ final.isCancelled = true
  crashed : result = .error .crashed →
    Silent wanted answers ∧ begun.horizon < Session.wakeAfter schedule begun.now final

variable (controller : Controller α)

/-- Only queries are made, and their answers decide. -/
inductive Confirms (wanted : Liveness → Bool) (schedule : Schedule) (late halted : ServiceError) :
    Course α SupervisorCall ServiceError Transition
  | queried {begun final : Session (World α)} {answers : List (Except ToolError Liveness)}
      {result : Except ServiceError Transition}
      (confirmed : Confirmed wanted schedule late halted begun answers result final) :
      Confirms wanted schedule late halted begun (controller.queries answers) result final

/-- Nothing is begun once the token has fired. -/
def Begins (operation : String) (course : Course α SupervisorCall ServiceError β) :
    Course α SupervisorCall ServiceError β := fun session =>
  if session.isCancelled then Course.Ends (.error (controller.cancelled operation)) session
  else course session

/-- A command is given.  If it fails, that is the end. -/
def Commands (operation : String) (note : Except ToolError Unit → SupervisorCall)
    (command : Call (World α) ToolError Unit)
    (next : Course α SupervisorCall ServiceError Transition) :
    Course α SupervisorCall ServiceError Transition :=
  Course.Asks note command fun
    | .ok () => next
    | .error cause => Course.Ends (.error (controller.refused operation cause))

/-- A start is asked for and confirmed. -/
def CommandsStart : Course α SupervisorCall ServiceError Transition :=
  controller.Commands "start" (.start controller.name) (controller.supervisor.start controller.name)
    (controller.Confirms Liveness.isRunning controller.timings.startSchedule
      (.startTimeout controller.name.text controller.timings.startTimeout)
      (controller.cancelled "start"))

/-- A stop is asked for and confirmed. -/
def CommandsStop : Course α SupervisorCall ServiceError Transition :=
  controller.Commands "stop" (.stop controller.name) (controller.supervisor.stop controller.name)
    (controller.Confirms (!·.isRunning) controller.timings.stopSchedule
      (.stopTimeout controller.name.text controller.timings.stopTimeout)
      (controller.cancelled "stop"))

/-- The discipline of a start: what it does follows from one query. -/
def Starts : Course α SupervisorCall ServiceError Transition :=
  controller.Begins "start" <| Course.Looks fun files =>
    if !files.doesExist controller.descriptorPath then
      Course.Ends (.error (.notInstalled controller.name.text controller.descriptorPath))
    else
      Course.Asks (.query controller.name) (controller.supervisor.query controller.name) fun
        | .ok (.running _) => Course.Ends (.ok .alreadyInDesiredState)
        | .ok .notLoaded =>
          controller.Commands "register" (.register controller.name controller.descriptorPath)
            (controller.supervisor.register controller.name controller.descriptorPath)
            controller.CommandsStart
        | .ok .loaded | .error _ => controller.CommandsStart

/-- The discipline of a stop: what it does follows from one query, which must not fail. -/
def Stops : Course α SupervisorCall ServiceError Transition :=
  controller.Begins "stop" <|
    Course.Asks (.query controller.name) (controller.supervisor.query controller.name) fun
      | .ok (.running _) => controller.CommandsStop
      | .ok .loaded | .ok .notLoaded => Course.Ends (.ok .alreadyInDesiredState)
      | .error cause => Course.Ends (.error (controller.refused "query" cause))

/-- The discipline of a restart: a stop, a rest and a start, of which the first that fails is the
last.  The rest crashes exactly where the clock cannot tell its end. -/
inductive Restarts : Course α SupervisorCall ServiceError Unit
  | unstopped {session final : Session (World α)} {calls : List SupervisorCall}
      {failure : ServiceError} (stops : controller.Stops session calls (.error failure) final) :
      Restarts session calls (.error failure) final
  | crashed {session halted : Session (World α)} {calls : List SupervisorCall}
      {transition : Transition} (stops : controller.Stops session calls (.ok transition) halted)
      (beyond : halted.horizon < halted.now + controller.timings.restartSettle) :
      Restarts session calls (.error .crashed) halted
  | disturbed {session halted rested : Session (World α)} {calls : List SupervisorCall}
      {transition : Transition} (stops : controller.Stops session calls (.ok transition) halted)
      (room : halted.now + controller.timings.restartSettle ≤ halted.horizon)
      (rests : halted.restFor controller.timings.restartSettle = (false, rested)) :
      Restarts session calls (.error (controller.cancelled "restart")) rested
  | settled {session halted rested final : Session (World α)} {calls more : List SupervisorCall}
      {transition : Transition} {result : Except ServiceError Transition}
      (stops : controller.Stops session calls (.ok transition) halted)
      (room : halted.now + controller.timings.restartSettle ≤ halted.horizon)
      (rests : halted.restFor controller.timings.restartSettle = (true, rested))
      (starts : controller.Starts rested more result final) :
      Restarts session (calls ++ more) (result.map fun _ => ()) final

/-! ## Operations keep the discipline -/

/-- Waiting for what a command was to bring about confirms it. -/
theorem poll_takes (wanted : Liveness → Option β) (schedule : Schedule)
    {late halted : ServiceError} (distinct : late ≠ halted) (lateTold : late ≠ .crashed)
    (haltedTold : halted ≠ .crashed)
    {next : Outcome β → Act (World (α × Journal SupervisorCall)) ServiceError Transition}
    (ready : ∀ value, next (.ready value) = pure .completed)
    (timedOut : ∀ attempts elapsed, next (.timedOut attempts elapsed) = throw late)
    (cancelled : ∀ attempts, next (.cancelled attempts) = throw halted) :
    Act.Takes (Act.poll .crashed schedule (controller.recorded.probe wanted) >>= next)
      (controller.Confirms (fun liveness => (wanted liveness).isSome) schedule late halted) := by
  intro session
  obtain ⟨answers, result, final, polled, calls, waits⟩ :=
    controller.poll_waits wanted .crashed schedule session
  rw [Act.bind_apply, Act.poll_apply, polled]
  have unheard (silent : Silent (fun liveness => (wanted liveness).isSome) answers) :
      ¬TellsAtLast (fun liveness => (wanted liveness).isSome) answers := by
    rintro ⟨front, last, rfl, told, -⟩
    exact silent last (by simp) told
  have ended (failure : ServiceError) : (Except.error failure : Except ServiceError Transition) ≠
      .ok .completed := nofun
  refine ⟨controller.queries answers, ?_, ?_⟩
  · rcases result with failure | outcome
    · exact calls
    · cases outcome <;> simp only [ready, timedOut, cancelled] <;> exact calls
  · cases waits with
    | ready told =>
        simp only [ready]
        exact .queried ⟨.inl rfl, iff_of_true rfl told, nofun, nofun, nofun⟩
    | timedOut silent late =>
        simp only [timedOut]
        exact .queried ⟨.inr (.inl rfl), iff_of_false (ended _) (unheard silent),
          fun _ => ⟨silent, late⟩, fun same => absurd (Except.error.inj same) distinct,
          fun same => absurd (Except.error.inj same) lateTold⟩
    | cancelled silent fired =>
        simp only [cancelled]
        exact .queried ⟨.inr (.inr (.inl rfl)), iff_of_false (ended _) (unheard silent),
          fun same => absurd (Except.error.inj same).symm distinct, fun _ => ⟨silent, fired⟩,
          fun same => absurd (Except.error.inj same) haltedTold⟩
    | crashed silent beyond =>
        exact .queried ⟨.inr (.inr (.inr rfl)), iff_of_false (ended _) (unheard silent),
          fun same => absurd (Except.error.inj same).symm lateTold,
          fun same => absurd (Except.error.inj same).symm haltedTold,
          fun _ => ⟨silent, beyond⟩⟩

/-- A recorded command goes on as what follows it does. -/
theorem command_takes (operation : String) (note : Except ToolError Unit → SupervisorCall)
    (command : Call (World α) ToolError Unit)
    {next : Act (World (α × Journal SupervisorCall)) ServiceError Transition}
    {course : Course α SupervisorCall ServiceError Transition} (onward : Act.Takes next course) :
    Act.Takes
      (Act.attempt (Exchange.recorded note command) >>= fun
        | .ok () => next
        | .error cause => throw (controller.refused operation cause))
      (controller.Commands operation note command course) := by
  apply Act.Takes.attempt_bind
  intro answer
  cases answer with
  | ok _ => exact onward
  | error cause => exact .throw _

theorem start_takes_of_loaded :
    Act.Takes
      (Act.attempt (controller.recorded.supervisor.start controller.name) >>= fun
        | .ok () => controller.recorded.awaitRunning
        | .error cause => throw (controller.refused "start" cause))
      controller.CommandsStart := by
  have running : (fun liveness => (runningPid liveness).isSome) = Liveness.isRunning := by
    funext liveness
    cases liveness <;> rfl
  have distinct : ServiceError.startTimeout controller.name.text controller.timings.startTimeout ≠
      controller.cancelled "start" := nofun
  apply controller.command_takes
  rw [← running]
  exact controller.poll_takes runningPid controller.timings.startSchedule distinct nofun nofun
    (fun _ => rfl) (fun _ _ => rfl) (fun _ => rfl)

theorem halt_takes : Act.Takes controller.recorded.halt controller.CommandsStop := by
  have idle : (fun liveness => (stopped liveness).isSome) = (!·.isRunning) := by
    funext liveness
    cases liveness <;> rfl
  have distinct : ServiceError.stopTimeout controller.name.text controller.timings.stopTimeout ≠
      controller.cancelled "stop" := nofun
  apply controller.command_takes
  rw [← idle]
  exact controller.poll_takes stopped controller.timings.stopSchedule distinct nofun nofun
    (fun _ => rfl) (fun _ _ => rfl) (fun _ => rfl)

/-- Work that the token has stopped is not begun. -/
theorem checkToken_takes (operation : String)
    {next : Act (World (α × Journal SupervisorCall)) ServiceError β}
    {course : Course α SupervisorCall ServiceError β} (onward : Act.Takes next course) :
    Act.Takes (controller.recorded.checkToken operation >>= fun _ => next)
      (controller.Begins operation course) := by
  intro session
  have plain : (session.through World.unrecorded).isCancelled = session.isCancelled := rfl
  rw [checkToken, Act.bind_apply, Act.bind_apply, Act.isCancelled_apply]
  dsimp only [Begins]
  rw [plain]
  cases session.isCancelled with
  | true => exact Act.Takes.throw (controller.cancelled operation) session
  | false => exact onward session

theorem start_takes : Act.Takes controller.recorded.start controller.Starts := by
  apply controller.checkToken_takes
  apply Act.Takes.files_bind
  intro files
  apply Act.Takes.ite (.throw _)
  apply Act.Takes.attempt_bind
  intro answer
  match answer with
  | .ok (.running _) => exact .pure _
  | .ok .notLoaded => exact controller.command_takes _ _ _ controller.start_takes_of_loaded
  | .ok .loaded => exact controller.start_takes_of_loaded
  | .error _ => exact controller.start_takes_of_loaded

theorem stop_takes : Act.Takes controller.recorded.stop controller.Stops := by
  apply controller.checkToken_takes
  apply Act.Takes.attempt_bind
  intro answer
  match answer with
  | .ok (.running _) => exact controller.halt_takes
  | .ok .loaded => exact .pure _
  | .ok .notLoaded => exact .pure _
  | .error _ => exact .throw _

theorem restart_takes : Act.Takes controller.recorded.restart controller.Restarts := by
  intro session
  obtain ⟨calls, grown, stops⟩ := controller.stop_takes session
  rw [restart, Act.bind_apply]
  generalize controller.recorded.stop session = left at grown stops
  obtain ⟨failure | transition, halted⟩ := left
  · exact ⟨calls, grown, .unstopped stops⟩
  · dsimp only
    rw [Act.bind_apply, Act.pause_apply, Session.pause_eq]
    rw [show controller.recorded.timings = controller.timings from rfl]
    by_cases beyond : halted.horizon < halted.now + controller.timings.restartSettle
    · rw [if_pos beyond]
      exact ⟨calls, grown, .crashed stops beyond⟩
    · have room := Nat.le_of_not_lt beyond
      have settling : (halted.through World.unrecorded).restFor controller.timings.restartSettle =
          _ := Session.restFor_through halted controller.timings.restartSettle
      have still : (halted.restFor controller.timings.restartSettle).2.calls = halted.calls := by
        rw [Session.calls, Session.journal, Session.world_restFor]
        rfl
      rw [if_neg beyond]
      generalize halted.restFor controller.timings.restartSettle = rested at settling still
      obtain ⟨undisturbed, after⟩ := rested
      dsimp only at settling still ⊢
      cases undisturbed with
      | false => exact ⟨calls, still.trans grown, .disturbed stops room settling⟩
      | true =>
        obtain ⟨more, grownMore, starts⟩ := controller.start_takes after
        simp only [Bool.not_true, Bool.false_eq_true, if_false, Act.bind_pure_apply]
        refine ⟨calls ++ more, ?_, .settled stops room settling starts⟩
        rw [grownMore, still, grown, List.append_assoc]

/-! ## Every operation -/

/-- Whatever the supervisor answers and whatever happens between its calls, a start, a stop and a
restart keep the discipline. -/
theorem start_stop_restart_confirmed (session : Session (World α)) :
    controller.Starts session (controller.recorded.start session.recording).2.calls
        (controller.start session).1 (controller.start session).2 ∧
      controller.Stops session (controller.recorded.stop session.recording).2.calls
        (controller.stop session).1 (controller.stop session).2 ∧
      controller.Restarts session (controller.recorded.restart session.recording).2.calls
        (controller.restart session).1 (controller.restart session).2 := by
  have plain {β : Type} {act : Act (World (α × Journal SupervisorCall)) ServiceError β}
      {act' : Act (World α) ServiceError β} {course : Course α SupervisorCall ServiceError β}
      (takes : Act.Takes act course) (refines : Act.Refines World.unrecorded act act') :
      course session (act session.recording).2.calls (act' session).1 (act' session).2 := by
    obtain ⟨calls, grown, taken⟩ := takes session.recording
    have same := refines session.recording
    rw [Session.recording_through] at taken same
    rw [grown, same]
    exact taken
  exact ⟨plain controller.start_takes controller.start_refines,
    plain controller.stop_takes controller.stop_refines,
    plain controller.restart_takes controller.restart_refines⟩

end Controller

end Steward
