import PapyrusWriter.Proofs.Routines
/-!
# Courses of routines

In a world, a program does the same each time it is run with the same files. A *course* leaves that
open: each run of a program comes to whatever a behaviour allows there. What the host refuses is as
in the world. A course also lists what the routine does to its surroundings, in order.

Running a routine in a world is one course (`Routine.course_run`), and what is shown for all courses
holds of runs. A course of two routines, one after the other, splits into a course of each
(`Course.bind_cases`). A passive routine has one course, its run, and that has no effects
(`Passive.course`).
-/

namespace PapyrusWriter

set_option autoImplicit false

/-- What a run of a program may come to: it cannot be started, or it ends and leaves some files. -/
abbrev Behaviour :=
  FileSystem → String → List String → Except SystemError (ProgramRun × FileSystem) → Prop

/-- The behaviour of programs that always do as the model says. -/
def ProgramModel.behaviour (programs : ProgramModel) : Behaviour :=
  fun files program arguments answer => programs files program arguments = answer

/-- What a routine does to its surroundings, but for the log. -/
inductive Effect where
  | wrote (path text : String)
  | created (path : String)
  | ran (program : String) (arguments : List String) (outcome : Except SystemError ProgramRun)
  | printed (text : String)

/-- The effect of a request that gets an answer. A write that fails has none. -/
def Request.effect? : (request : Request) → request.Answer → Option Effect
  | .writeText path text, .ok _ => some (.wrote path text)
  | .createDirectory path, .ok _ => some (.created path)
  | .run program arguments, outcome => some (.ran program arguments outcome)
  | .print text, _ => some (.printed text)
  | _, _ => none

def Request.isRun : Request → Bool
  | .run _ _ => true
  | _ => false

/-- The answers that a request can get, with the world after it. -/
inductive World.Answers (behaviour : Behaviour) (world : World) :
    (request : Request) → request.Answer → World → Prop
  | plain {request : Request} (plain : request.isRun = false) :
      Answers behaviour world request (world.answer request).1 (world.answer request).2
  | started {program : String} {arguments : List String} {run : ProgramRun} {files : FileSystem}
      (does : behaviour world.files program arguments (.ok (run, files))) :
      Answers behaviour world (.run program arguments) (.ok run) { world with files }
  | refused {program : String} {arguments : List String} {cause : SystemError}
      (does : behaviour world.files program arguments (.error cause)) :
      Answers behaviour world (.run program arguments) (.error cause) world

theorem Request.effect?_of_isPassive {request : Request} (passive : request.isPassive = true)
    (answer : request.Answer) : request.effect? answer = none := by
  cases request with
  | writeText | createDirectory | run | print => cases passive
  | _ => rfl

/-- Answering changes neither what programs do nor what is refused. -/
theorem World.host_answer (world : World) (request : Request) :
    (world.answer request).2.programs = world.programs ∧
      (world.answer request).2.refusals = world.refusals := by
  cases request with
  | writeText path text => rw [answer]; cases world.write path text <;> exact ⟨rfl, rfl⟩
  | createDirectory path => rw [answer]; cases world.createDirectory path <;> exact ⟨rfl, rfl⟩
  | run program arguments =>
      rw [answer]
      cases world.programs world.files program arguments <;> exact ⟨rfl, rfl⟩
  | _ => exact ⟨rfl, rfl⟩

theorem World.answers_answer (world : World) (request : Request) :
    world.Answers world.programs.behaviour request (world.answer request).1
      (world.answer request).2 := by
  cases request with
  | run program arguments =>
      rw [answer]
      cases ran : world.programs world.files program arguments with
      | error cause => exact .refused ran
      | ok ended => exact .started ran
  | _ => exact .plain rfl

namespace Routine

variable {ε α β : Type}

/-- A course of a routine from a world: its effects, its outcome and the world after it. -/
inductive Course (behaviour : Behaviour) :
    Routine ε α → World → List Effect → Except ε α → World → Prop
  | done (result : Except ε α) (world : World) :
      Course behaviour (.done result) world [] result world
  | ask {request : Request} {next : request.Answer → Routine ε α} {world middle after : World}
      {answer : request.Answer} {effects : List Effect} {outcome : Except ε α}
      (answers : world.Answers behaviour request answer middle)
      (rest : Course behaviour (next answer) middle effects outcome after) :
      Course behaviour (.ask request next) world ((request.effect? answer).toList ++ effects)
        outcome after

/-- The effects of a run. -/
def effects : Routine ε α → World → List Effect
  | .done _, _ => []
  | .ask request next, world =>
      (request.effect? (world.answer request).1).toList ++
        (next (world.answer request).1).effects (world.answer request).2

/-- A run is a course in which programs do as the world says. -/
theorem course_run (routine : Routine ε α) (world : World) :
    routine.Course world.programs.behaviour world (routine.effects world) (routine.run world).1
      (routine.run world).2 := by
  induction routine generalizing world with
  | done result => exact .done result world
  | ask request next ih =>
      obtain ⟨kept, -⟩ := world.host_answer request
      have rest := ih (world.answer request).1 (world.answer request).2
      rw [kept] at rest
      exact .ask (world.answers_answer request) rest

namespace Course

variable {behaviour : Behaviour} {world after : World} {effects : List Effect}

/-- A host refuses after a course what it refused before it. -/
theorem refusals_eq {routine : Routine ε α} {outcome : Except ε α}
    (course : routine.Course behaviour world effects outcome after) :
    after.refusals = world.refusals := by
  induction course with
  | done => rfl
  | ask answers rest ih =>
      rw [ih]
      cases answers with
      | plain => exact (World.host_answer _ _).2
      | started | refused => rfl

theorem bind_cases {first : Routine ε α} {next : α → Routine ε β} {outcome : Except ε β}
    (course : (first >>= next).Course behaviour world effects outcome after) :
    (∃ error, first.Course behaviour world effects (.error error) after ∧
        outcome = .error error) ∨
      ∃ a middle former latter, first.Course behaviour world former (.ok a) middle ∧
        (next a).Course behaviour middle latter outcome after ∧ effects = former ++ latter := by
  replace course : (first.bind next).Course behaviour world effects outcome after := course
  induction first generalizing world effects with
  | done result =>
      cases result with
      | ok a => exact .inr ⟨a, world, [], effects, .done _ _, course, rfl⟩
      | error error =>
          cases course
          exact .inl ⟨error, .done _ _, rfl⟩
  | ask request rest ih =>
      cases course with
      | ask answers later =>
          obtain ⟨error, failed, same⟩ | ⟨a, middle, former, latter, front, back, rfl⟩ :=
            ih _ later
          · exact .inl ⟨error, .ask answers failed, same⟩
          · refine .inr ⟨a, middle, _, latter, .ask answers front, back, ?_⟩
            rw [List.append_assoc]

end Course

/-- A passive routine does what its run does, without effects. -/
theorem Passive.course {routine : Routine ε α} (passive : routine.Passive) {behaviour : Behaviour}
    {world after : World} {effects : List Effect} {outcome : Except ε α}
    (course : routine.Course behaviour world effects outcome after) :
    effects = [] ∧ routine.run world = (outcome, after) := by
  induction course with
  | done result world => exact ⟨rfl, rfl⟩
  | ask answers rest ih =>
      cases answers with
      | started | refused => exact absurd passive.1 Bool.false_ne_true
      | plain =>
          obtain ⟨none, ran⟩ := ih (passive.2 _)
          refine ⟨?_, ran⟩
          rw [none, Request.effect?_of_isPassive passive.1]
          rfl

/-- After a passive routine, a course goes on with the outcome of its run. -/
theorem Course.passive_bind {first : Routine ε α} {next : α → Routine ε β} (passive : first.Passive)
    {behaviour : Behaviour} {world after : World} {effects : List Effect} {outcome : Except ε β}
    (course : (first >>= next).Course behaviour world effects outcome after) :
    (∃ error, first.run world = (.error error, after) ∧ outcome = .error error ∧
        effects = []) ∨
      ∃ a middle, first.run world = (.ok a, middle) ∧
        (next a).Course behaviour middle effects outcome after := by
  obtain ⟨error, failed, same⟩ | ⟨a, middle, former, latter, front, back, rfl⟩ :=
    course.bind_cases
  · obtain ⟨none, ran⟩ := passive.course failed
    exact .inl ⟨error, ran, same, none⟩
  · obtain ⟨rfl, ran⟩ := passive.course front
    exact .inr ⟨a, middle, ran, back⟩

/-- After a request, a course goes on with one of its answers. -/
theorem Course.request_bind {request : Request} {next : request.Answer → Routine ε β}
    {behaviour : Behaviour} {world after : World} {effects : List Effect} {outcome : Except ε β}
    (course : (Routine.request request >>= next).Course behaviour world effects outcome after) :
    ∃ answer middle rest, world.Answers behaviour request answer middle ∧
      effects = (request.effect? answer).toList ++ rest ∧
      (next answer).Course behaviour middle rest outcome after := by
  replace course : (Routine.ask request next).Course behaviour world effects outcome after := course
  cases course with
  | ask answers rest => exact ⟨_, _, _, answers, rfl, rest⟩

end Routine

end PapyrusWriter
