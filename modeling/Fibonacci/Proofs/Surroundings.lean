/-
Running stages over a world.

A stage of the program is run on a world with `exec`, which gives what the stage came to
and the world that it leaves. Each operation of the surroundings has one equation here,
and the two `bind` lemmas chain them: a stage that succeeds hands its world on, a stage
that fails ends the chain with the world as it is. With these the stages are followed
without looking into the monads again.

What a world shows on its channels is a view of its effects, and both views distribute
over `after`.

A run starts with the complaints about the filter. Whether it gets past them is `start`,
and `run_eq` says what it does in either case.
-/
import Fibonacci.Program

set_option autoImplicit false

namespace Fibonacci

/-! ## Views -/

namespace World

variable (w : World) (done more : List Effect)

@[simp] theorem after_files : (w.after done).files = w.files := rfl

@[simp] theorem after_errorRefuses : (w.after done).errorRefuses = w.errorRefuses := rfl

@[simp] theorem after_times : (w.after done).times = w.times := rfl

@[simp] theorem after_effects : (w.after done).effects = w.effects ++ done := rfl

@[simp] theorem after_nil : w.after [] = w := by
  simp [after]

@[simp] theorem after_after : (w.after done).after more = w.after (done ++ more) := by
  simp [after]

/-- The world after one look at the clock. -/
def clocked : World := { w with times := w.times.tail }

/-- The next time that the clock is going to give. -/
def nextTime : Nat := w.times.head?.getD 0

@[simp] theorem nextTime_after : (w.after done).nextTime = w.nextTime := rfl

theorem output_of_effects {w final : World} {done : List Effect}
    (h : final.effects = w.effects ++ done) :
    final.output = w.output ++ String.join (done.filterMap Effect.printed?) := by
  rw [output, h, List.filterMap_append, String.join_append, ← output]

theorem diagnostics_of_effects {w final : World} {done : List Effect}
    (h : final.effects = w.effects ++ done) :
    final.diagnostics = w.diagnostics ++ done.filterMap Effect.diagnosed? := by
  rw [diagnostics, h, List.filterMap_append, ← diagnostics]

end World

namespace Program

/-! ## Running a stage -/

/-- What a stage comes to on a world, and the world that it leaves. -/
def exec {α : Type} (stage : ExceptT Failure (StateM World) α) (w : World) :
    Except Failure α × World :=
  (stage.run).run w

section
variable {α β : Type} {stage : ExceptT Failure (StateM World) α}
  {next : α → ExceptT Failure (StateM World) β} {w left : World}

/-- A stage that succeeds hands over its result and its world. -/
theorem exec_bind_of_ok {result : α} (h : exec stage w = (.ok result, left)) :
    exec (stage >>= next) w = exec (next result) left := by
  -- two monads are opened here, the early ending and the world, and `h` stands
  -- between them; this lemma and the next are the only places that see both
  unfold exec at h ⊢
  rw [ExceptT.run_bind, StateT.run_bind, h]
  rfl

/-- A stage that fails ends the run. -/
theorem exec_bind_of_error {failure : Failure} (h : exec stage w = (.error failure, left)) :
    exec (stage >>= next) w = (.error failure, left) := by
  unfold exec at h ⊢
  rw [ExceptT.run_bind, StateT.run_bind, h]
  rfl

end

@[simp] theorem exec_pure {α : Type} (result : α) (w : World) :
    exec (pure result) w = (.ok result, w) := rfl

/-! ## The operations of the surroundings -/

section
variable {w : World} (text : String)

theorem run_print_of_full (h : w.outputFull = true) :
    (Host.print text : StateM World _).run w = (.error .noSpace, w) := if_pos h

theorem run_print_of_open (h : w.outputFull = false) :
    (Host.print text : StateM World _).run w = (.ok (), w.after [.printed text]) :=
  if_neg (by rw [h]; decide)

end

section
variable {w : World} {text : String}

theorem run_printError_of_taken (h : w.errorRefuses text = none) :
    (Host.printError text : StateM World _).run w
      = (.ok (), w.after [.diagnosed (.text text)]) := by
  change World.printError text w = _
  rw [World.printError, h]

theorem run_printError_of_refused {cause : FileError} (h : w.errorRefuses text = some cause) :
    (Host.printError text : StateM World _).run w = (.error cause, w) := by
  change World.printError text w = _
  rw [World.printError, h]

theorem run_writeFile_of_ok {path : String} {files : FileTree}
    (h : w.files.writeText path text = .ok files) :
    (Host.writeFile path text : StateM World _).run w
      = (.ok (), { w.after [.wrote path text] with files := files }) := by
  change World.writeFile path text w = _
  rw [World.writeFile, h]

theorem run_writeFile_of_error {path : String} {cause : FileError}
    (h : w.files.writeText path text = .error cause) :
    (Host.writeFile path text : StateM World _).run w = (.error cause, w) := by
  change World.writeFile path text w = _
  rw [World.writeFile, h]

end

/-- A stage that only acts on the surroundings succeeds with what the action gives. -/
theorem exec_lift {α : Type} {action : StateM World α} {w left : World} {result : α}
    (h : action.run w = (result, left)) :
    exec (ExceptT.lift action) w = (.ok result, left) := by
  change (Except.ok (action.run w).1, (action.run w).2) = _
  rw [h]

theorem exec_readFile (path : String) (w : World) :
    exec (Host.readFile path) w = (.ok (w.files.readText path), w) := rfl

theorem exec_timed {α : Type} (f : Unit → α) (w : World) :
    exec (Host.timed f) w = (.ok (f (), w.nextTime), w.clocked) := rfl

theorem exec_print_of_full {w : World} (text : String) (h : w.outputFull = true) :
    exec (Host.print text) w = (.ok (.error .noSpace), w) :=
  exec_lift (run_print_of_full text h)

theorem exec_print_of_open {w : World} (text : String) (h : w.outputFull = false) :
    exec (Host.print text) w = (.ok (.ok ()), w.after [.printed text]) :=
  exec_lift (run_print_of_open text h)

theorem exec_printError_of_taken {w : World} {text : String} (h : w.errorRefuses text = none) :
    exec (Host.printError text) w = (.ok (.ok ()), w.after [.diagnosed (.text text)]) :=
  exec_lift (run_printError_of_taken h)

theorem exec_printError_of_refused {w : World} {text : String} {cause : FileError}
    (h : w.errorRefuses text = some cause) :
    exec (Host.printError text) w = (.ok (.error cause), w) :=
  exec_lift (run_printError_of_refused h)

theorem exec_writeFile_of_ok {w : World} {path text : String} {files : FileTree}
    (h : w.files.writeText path text = .ok files) :
    exec (Host.writeFile path text) w
      = (.ok (.ok ()), { w.after [.wrote path text] with files := files }) :=
  exec_lift (run_writeFile_of_ok h)

theorem exec_writeFile_of_error {w : World} {path text : String} {cause : FileError}
    (h : w.files.writeText path text = .error cause) :
    exec (Host.writeFile path text) w = (.ok (.error cause), w) :=
  exec_lift (run_writeFile_of_error h)

/-! ## Events -/

/-- The effect of an event that the filter may let through. -/
def noted (filter : Log.Filter) (e : Log.Event) : List Effect :=
  if filter.passes e then [.diagnosed (.event e)] else []

theorem exec_note (filter : Log.Filter) (e : Log.Event) (w : World) :
    exec (note filter e) w = (.ok (), w.after (noted filter e)) := by
  unfold note noted
  by_cases h : filter.passes e = true
  · rw [if_pos h, if_pos h]
    rfl
  · rw [if_neg h, if_neg h, World.after_nil]
    rfl

/-- Every effect of an event is an event on standard error. -/
theorem eq_event_of_mem_noted {filter : Log.Filter} {e : Log.Event} {effect : Effect}
    (h : effect ∈ noted filter e) : effect = .diagnosed (.event e) := by
  unfold noted at h
  split at h
  · exact List.mem_singleton.mp h
  · cases h

/-! ## Telling something -/

section
variable {text : String} {next : StateM World UInt32} {w : World}

theorem run_tell_of_taken (h : w.errorRefuses text = none) :
    (tell text next).run w = next.run (w.after [.diagnosed (.text text)]) := by
  unfold tell
  rw [StateT.run_bind, run_printError_of_taken h]
  rfl

theorem run_tell_of_refused {cause : FileError} (h : w.errorRefuses text = some cause) :
    (tell text next).run w = (crashed, w.after [.diagnosed (.crash (.unheard cause))]) := by
  unfold tell
  rw [StateT.run_bind, run_printError_of_refused h]
  rfl

end

/-! ## The end of a run -/

section
variable (libraries : Libraries) (w : World)

/-- The status of a run that ends with this failure, or with none. -/
def statusFor : Option Failure → UInt32
  | none => succeeded
  | some failure =>
    match w.errorRefuses (errorLine libraries failure) with
    | none => failed
    | some _ => crashed

/-- What is told of a failure, if there is one. -/
def told : Option Failure → List Effect
  | none => []
  | some failure =>
    match w.errorRefuses (errorLine libraries failure) with
    | none => [.diagnosed (.text (errorLine libraries failure))]
    | some cause => [.diagnosed (.crash (.unheard cause))]

end

theorem run_conclude (libraries : Libraries) {stages : ExceptT Failure (StateM World) Unit}
    {w left : World} {failure : Option Failure}
    (h : exec stages w = ((match failure with
      | none => .ok ()
      | some failure => .error failure), left)) :
    (conclude libraries stages).run w
      = (statusFor libraries left failure, left.after (told libraries left failure)) := by
  unfold exec at h
  unfold conclude
  rw [StateT.run_bind, h]
  rcases failure with _ | failure
  · rw [told, World.after_nil]
    rfl
  · change (tell (errorLine libraries failure) (pure failed) : StateM World UInt32).run left = _
    unfold statusFor told
    dsimp only
    rcases hrefused : left.errorRefuses (errorLine libraries failure) with _ | cause
    · rw [run_tell_of_taken hrefused]
      rfl
    · rw [run_tell_of_refused hrefused]

/-- Whatever becomes of its message, a failure shows in the status. -/
theorem statusFor_eq_succeeded_iff {libraries : Libraries} {w : World}
    {failure : Option Failure} :
    statusFor libraries w failure = succeeded ↔ failure = none := by
  have hfailed : failed ≠ succeeded := by decide
  have hcrashed : crashed ≠ succeeded := by decide
  rcases failure with _ | failure
  · exact iff_of_true rfl rfl
  · unfold statusFor
    dsimp only
    split
    · simp [hfailed]
    · simp [hcrashed]

/-! ## The start of a run -/

/-- The complaints as far as standard error takes them, in order. -/
def heard (w : World) (complaints : List Log.Complaint) : List Effect :=
  (complaints.takeWhile fun c => (w.errorRefuses c.text).isNone).map
    fun c => .diagnosed (.text c.text)

/-- The first complaint that is refused stops the run. -/
theorem run_foldr_tell (complaints : List Log.Complaint) (next : StateM World UInt32)
    (w : World) :
    (complaints.foldr (fun c next => tell c.text next) next).run w
      = match complaints.findSome? fun c => w.errorRefuses c.text with
        | none => next.run (w.after (heard w complaints))
        | some cause =>
          (crashed, w.after (heard w complaints ++ [.diagnosed (.crash (.unheard cause))])) := by
  induction complaints generalizing w with
  | nil => exact congrArg _ (World.after_nil w).symm
  | cons c complaints ih =>
    -- the rest is told to the world that the first complaint leaves, so the induction is
    -- over every world
    rw [List.foldr_cons, List.findSome?_cons]
    rcases hc : w.errorRefuses c.text with _ | cause
    · have hheard : heard w (c :: complaints)
          = .diagnosed (.text c.text)
            :: heard (w.after [.diagnosed (.text c.text)]) complaints := by
        simp [heard, hc]
      rw [run_tell_of_taken hc, ih, hheard]
      simp only [World.after_errorRefuses, World.after_after, List.cons_append, List.nil_append]
    · have hheard : heard w (c :: complaints) = [] := by simp [heard, hc]
      rw [run_tell_of_refused hc, hheard]
      rfl

/-- Whether a run gets past its start, with the filter for its events or with what stops
it. -/
def start (environment : Environment) (w : World) : Except Crash Log.Filter :=
  match environment.logging.complaints.findSome? fun c => w.errorRefuses c.text with
  | some cause => .error (.unheard cause)
  | none =>
    match environment.logging.filter with
    | none => .error .filter
    | some filter => .ok filter

/-- The complaints about the filter, which come before everything else. -/
def complaining (environment : Environment) (w : World) : List Effect :=
  heard w environment.logging.complaints

/-- A run stops at its start, or goes on with the complaints out. -/
theorem run_eq (arguments : List String) (environment : Environment) (w : World) :
    (run arguments environment : StateM World UInt32).run w
      = match start environment w with
        | .error cause =>
          (crashed, w.after (complaining environment w ++ [.diagnosed (.crash cause)]))
        | .ok filter =>
          (obey filter arguments environment : StateM World UInt32).run
            (w.after (complaining environment w)) := by
  unfold run start
  rw [run_foldr_tell]
  cases environment.logging.complaints.findSome? (fun c => w.errorRefuses c.text) with
  | none =>
    cases environment.logging.filter with
    | none =>
      change (crashed, (w.after (complaining environment w)).after [.diagnosed (.crash .filter)])
        = _
      rw [World.after_after]
    | some filter => rfl
  | some cause => rfl

/-- Past its start a run does what its command line asks for. -/
theorem run_of_started {arguments : List String} {environment : Environment} {w : World}
    {filter : Log.Filter} {invocation : Command.Invocation}
    (started : start environment w = .ok filter)
    (parsed : Command.Invocation.parse arguments = .ok invocation) :
    (run arguments environment : StateM World UInt32).run w
      = (perform filter environment invocation : StateM World UInt32).run
          (w.after (complaining environment w)) := by
  rw [run_eq, started]
  dsimp only
  unfold obey
  rw [parsed]

end Program
end Fibonacci
