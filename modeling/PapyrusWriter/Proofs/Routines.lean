import PapyrusWriter.Host.World
/-!
# Runs of routines

How a run of two routines, one after the other, splits into a run of each. Beside what a run leaves,
`writes` lists the files that it asks to write, whether or not that works.

A routine is `Passive` if it asks only to look at files and to report. A run of such a routine
leaves the world as it is, but for the log (`Passive.run_eq`), and asks to write nothing
(`Passive.writes_eq_nil`). What it comes to is `Computes`: an outcome that the files decide, with
what the host refuses to do with them.
-/

namespace PapyrusWriter

set_option autoImplicit false

theorem eq_ok_of_toOption {ε α : Type} {outcome : Except ε α} {a : α}
    (known : outcome.toOption = some a) : outcome = .ok a := by
  cases outcome with
  | ok value => exact congrArg Except.ok (Option.some.inj known)
  | error error => cases known

theorem exists_of_bind_eq_ok {ε α β : Type} {outcome : Except ε α} {next : α → Except ε β} {b : β}
    (ended : outcome >>= next = .ok b) : ∃ a, outcome = .ok a ∧ next a = .ok b := by
  cases outcome with
  | ok a => exact ⟨a, rfl, ended⟩
  | error error => cases ended

/-- The file that a request asks to write, with its text. -/
def Request.written? : Request → Option (String × String)
  | .writeText path text => some (path, text)
  | _ => none

/-- Whether a request asks to look at files or to report. -/
def Request.isPassive : Request → Bool
  | .writeText _ _ | .createDirectory _ | .run _ _ | .print _ => false
  | _ => true

/-- The world with more in its log. -/
def World.logged (world : World) (events : List Event) : World :=
  { world with log := world.log ++ events }

theorem World.logged_nil (world : World) : world.logged [] = world := by
  rw [logged, List.append_nil]

theorem World.answer_passive (world : World) {request : Request}
    (passive : request.isPassive = true) :
    ∃ events, (world.answer request).2 = world.logged events := by
  cases request with
  | report event => exact ⟨[event], rfl⟩
  | writeText | createDirectory | run | print => cases passive
  | _ => exact ⟨[], world.logged_nil.symm⟩

theorem World.logged_logged (world : World) (events more : List Event) :
    (world.logged events).logged more = world.logged (events ++ more) := by
  simp only [logged, List.append_assoc]

namespace Routine

variable {ε α β γ : Type}

/-- The files that a run asks to write, with their texts. -/
def writes : Routine ε α → World → List (String × String)
  | .done _, _ => []
  | .ask request next, world =>
      request.written?.toList ++ (next (world.answer request).1).writes (world.answer request).2

/-- A routine that asks only to look at files and to report. -/
def Passive : Routine ε α → Prop
  | .done _ => True
  | .ask request next => request.isPassive = true ∧ ∀ answer, (next answer).Passive

theorem run_request (request : Request) (world : World) :
    (Routine.request request : Routine ε _).run world =
      (.ok (world.answer request).1, (world.answer request).2) := rfl

theorem run_orFail_eq_ok {wrap : SystemError → ε} {answer : Except SystemError α} {a : α}
    {world after : World} (ran : (orFail wrap answer).run world = (.ok a, after)) :
    answer = .ok a ∧ after = world := by
  cases answer with
  | ok a => cases ran; exact ⟨rfl, rfl⟩
  | error cause => cases ran

theorem run_orFail_eq_error {wrap : SystemError → ε} {answer : Except SystemError α} {error : ε}
    {world after : World} (ran : (orFail wrap answer).run world = (.error error, after)) :
    ∃ cause, answer = .error cause ∧ error = wrap cause := by
  cases answer with
  | ok a => cases ran
  | error cause => cases ran; exact ⟨cause, rfl, rfl⟩

theorem run_eq_of_toOption {routine : Routine ε α} {world : World} {a : α}
    (ended : (routine.run world).1.toOption = some a) :
    routine.run world = (.ok a, (routine.run world).2) :=
  Prod.ext (eq_ok_of_toOption ended) rfl

/-- Two routines that cannot be told apart in a world. -/
def RunsLike (routine other : Routine ε α) (world : World) : Prop :=
  routine.run world = other.run world ∧ routine.writes world = other.writes world

theorem RunsLike.trans {first second third : Routine ε α} {world : World}
    (former : first.RunsLike second world) (latter : second.RunsLike third world) :
    first.RunsLike third world :=
  ⟨former.1.trans latter.1, former.2.trans latter.2⟩

/-- Looking at the world and going on is going on with what is there. -/
theorem runsLike_of_answer {request : Request} {next : request.Answer → Routine ε α}
    {world : World} {answer : request.Answer} (answered : world.answer request = (answer, world))
    (passive : request.written? = none) :
    (Routine.request request >>= next).RunsLike (next answer) world := by
  show (Routine.ask request next).RunsLike (next answer) world
  rw [RunsLike, run, writes, answered, passive]
  exact ⟨rfl, rfl⟩

theorem bind_assoc (first : Routine ε α) (second : α → Routine ε β)
    (third : β → Routine ε γ) :
    (first >>= second) >>= third = first >>= fun a => second a >>= third := by
  show (first.bind second).bind third = first.bind fun a => (second a).bind third
  induction first with
  | done result => cases result <;> rfl
  | ask request next ih => exact congrArg (Routine.ask request) (funext ih)

section Bind

variable {first : Routine ε α} {next : α → Routine ε β} {world after last : World} {a : α} {b : β}
  {error : ε}

theorem run_bind_of_ok (ran : first.run world = (.ok a, after)) :
    (first >>= next).run world = (next a).run after := by
  rw [run_bind, ran]

theorem run_bind_of_error (ran : first.run world = (.error error, after)) :
    (first >>= next).run world = (.error error, after) := by
  rw [run_bind, ran]

theorem run_bind_eq_ok (ran : (first >>= next).run world = (.ok b, last)) :
    ∃ a after, first.run world = (.ok a, after) ∧ (next a).run after = (.ok b, last) := by
  rcases started : first.run world with ⟨_ | a, after⟩
  · rw [run_bind_of_error started] at ran
    cases ran
  · rw [run_bind_of_ok started] at ran
    exact ⟨a, after, rfl, ran⟩

theorem run_bind_eq_error (ran : (first >>= next).run world = (.error error, last)) :
    first.run world = (.error error, last) ∨
      ∃ a after, first.run world = (.ok a, after) ∧ (next a).run after = (.error error, last) := by
  rcases started : first.run world with ⟨_ | a, after⟩
  · rw [run_bind_of_error started] at ran
    cases ran
    exact .inl rfl
  · rw [run_bind_of_ok started] at ran
    exact .inr ⟨a, after, rfl, ran⟩

theorem writes_bind_of_ok (ran : first.run world = (.ok a, after)) :
    (first >>= next).writes world = first.writes world ++ (next a).writes after := by
  show (first.bind next).writes world = _
  induction first generalizing world with
  | done result =>
      cases ran
      rfl
  | ask request rest ih =>
      rw [bind, writes, writes, List.append_assoc]
      exact congrArg _ (ih _ ran)

theorem writes_bind_of_error (ran : first.run world = (.error error, after)) :
    (first >>= next).writes world = first.writes world := by
  show (first.bind next).writes world = _
  induction first generalizing world with
  | done result =>
      cases ran
      rfl
  | ask request rest ih => exact congrArg _ (ih _ ran)

end Bind

namespace Passive

variable {routine : Routine ε α}

theorem run_eq (passive : routine.Passive) (world : World) :
    ∃ events, (routine.run world).2 = world.logged events := by
  induction routine generalizing world with
  | done result => exact ⟨[], world.logged_nil.symm⟩
  | ask request next ih =>
      obtain ⟨events, answered⟩ := world.answer_passive passive.1
      obtain ⟨more, ran⟩ := ih _ (passive.2 _) (world.answer request).2
      refine ⟨events ++ more, ?_⟩
      rw [← World.logged_logged, ← answered, ← ran]
      rfl

theorem after_eq (passive : routine.Passive) {world after : World} {outcome : Except ε α}
    (ran : routine.run world = (outcome, after)) : ∃ events, after = world.logged events := by
  obtain ⟨events, left⟩ := passive.run_eq world
  rw [ran] at left
  exact ⟨events, left⟩

theorem writes_eq_nil (passive : routine.Passive) (world : World) : routine.writes world = [] := by
  induction routine generalizing world with
  | done result => rfl
  | ask request next ih =>
      have silent : request.written? = none := by
        cases request with
        | writeText => exact absurd passive.1 Bool.false_ne_true
        | _ => rfl
      rw [writes, silent]
      exact ih _ (passive.2 _) _

theorem bind {next : α → Routine ε β} (first : routine.Passive) (second : ∀ a, (next a).Passive) :
    (routine >>= next).Passive := by
  show (routine.bind next).Passive
  induction routine with
  | done result =>
      cases result with
      | ok a => exact second a
      | error error => trivial
  | ask request rest ih => exact ⟨first.1, fun answer => ih answer (first.2 answer)⟩

theorem request {request : Request} (passive : request.isPassive = true) :
    (Routine.request request : Routine ε _).Passive :=
  ⟨passive, fun _ => trivial⟩

theorem orFail (wrap : SystemError → ε) (answer : Except SystemError α) :
    (Routine.orFail wrap answer).Passive := by
  cases answer <;> trivial

theorem forM_report {δ : Type} (event : δ → Event) (items : List δ) :
    (items.forM fun item => (Routine.report (event item) : Routine ε Unit)).Passive := by
  induction items with
  | nil => trivial
  | cons item rest ih => exact bind (request rfl) fun _ => ih

theorem ofLogged {δ : Type} (wrap : δ → ε) (run : Logged δ α) :
    (Routine.ofLogged wrap run).Passive := by
  refine bind (forM_report id run.events) fun _ => ?_
  cases run.result <;> trivial

end Passive

/-- Reporting succeeds. -/
theorem run_forM_report {δ : Type} (event : δ → Event) (items : List δ) (world : World) :
    (items.forM fun item => (report (event item) : Routine ε Unit)).run world =
      (.ok (), world.logged (items.map event)) := by
  induction items generalizing world with
  | nil => rw [List.map_nil, World.logged_nil]; rfl
  | cons item rest ih =>
      have step : (report (event item) : Routine ε Unit).run world =
          (.ok (), world.logged [event item]) := rfl
      show (report (event item) >>= fun _ => rest.forM _).run world = _
      rw [run_bind_of_ok step, ih, World.logged_logged, List.map_cons, List.singleton_append]

theorem run_ofLogged {δ : Type} (wrap : δ → ε) (logged : Logged δ α) (world : World) :
    (ofLogged wrap logged).run world =
      (logged.result.mapError wrap, world.logged logged.events) := by
  have reported : (logged.events.forM report : Routine ε Unit).run world =
      (.ok (), world.logged logged.events) := by
    simpa only [id, List.map_id_fun] using run_forM_report id logged.events world
  rw [ofLogged, run_bind_of_ok reported]
  cases logged.result <;> rfl

/-- A routine comes to an outcome that the files and the refusals decide, and only reports. -/
def Computes (routine : Routine ε α) (storage : Storage) (outcome : Except ε α) : Prop :=
  ∀ world : World, world.toStorage = storage →
    ∃ events, routine.run world = (outcome, world.logged events)

namespace Computes

variable {storage : Storage}

theorem done (result : Except ε α) : (Routine.done result).Computes storage result :=
  fun world _ => ⟨[], by rw [World.logged_nil]; rfl⟩

theorem report {event : Event} {next : Unit → Routine ε α} {outcome : Except ε α}
    (rest : (next ()).Computes storage outcome) :
    (Routine.report event >>= next).Computes storage outcome := by
  intro world same
  obtain ⟨events, ran⟩ := rest (world.logged [event]) same
  have reported : (Routine.report event : Routine ε Unit).run world =
      (.ok (), world.logged [event]) := rfl
  refine ⟨[event] ++ events, ?_⟩
  rw [Routine.run_bind_of_ok reported, ran, World.logged_logged]

theorem orFail (wrap : SystemError → ε) (answer : Except SystemError α) :
    (Routine.orFail wrap answer).Computes storage (answer.mapError wrap) := by
  cases answer <;> exact done _

theorem bind {first : Routine ε α} {next : α → Routine ε β} {outcome : Except ε α}
    {f : α → Except ε β} (former : first.Computes storage outcome)
    (latter : ∀ a, (next a).Computes storage (f a)) :
    (first >>= next).Computes storage (outcome >>= f) := by
  intro world same
  obtain ⟨events, ran⟩ := former world same
  cases outcome with
  | error error => exact ⟨events, Routine.run_bind_of_error ran⟩
  | ok a =>
      obtain ⟨more, rest⟩ := latter a (world.logged events) same
      refine ⟨events ++ more, ?_⟩
      rw [Routine.run_bind_of_ok ran, rest, World.logged_logged]
      rfl

/-- Looking at the files and going on is going on with what is there. -/
theorem look {request : Request} {next : request.Answer → Routine ε α} {outcome : Except ε α}
    (answer : request.Answer)
    (answers : ∀ world : World, world.toStorage = storage →
      world.answer request = (answer, world))
    (rest : (next answer).Computes storage outcome) :
    (Routine.request request >>= next).Computes storage outcome := by
  intro world same
  rw [Routine.run_bind_of_ok (Routine.run_request _ _), answers world same]
  exact rest world same

end Computes

end Routine

end PapyrusWriter
