/-
The course of a benchmark.

All cases run before any line is printed, each with the next time that the clock gives,
so the results are known from the cases and the times alone (`resultsAt`). What is left
is to print them. Standard output either takes every line or none, and a suite is never
empty, so a benchmark ends in one of three ways: nothing is printed, all lines are out
and a case has failed, all lines are out and none has.

As with an evaluation, only the events on the way depend on the filter.
-/
import Fibonacci.Proofs.Surroundings

set_option autoImplicit false

namespace Fibonacci

/-! ## The cases -/

/-- What the evaluator of a case gives. -/
def Benchmark.Case.run (c : Case) : Except EvalError UInt64 :=
  evaluated c.algorithm.evaluate c.n c.rounds

namespace Program

open Benchmark (Case Result)

/-- What comes of a case for which the clock gives this time. -/
def resultAt (c : Case) (nanoseconds : Nat) : Result :=
  ⟨c.name, c.run, c.expected, nanoseconds / 1000000⟩

/-- What comes of cases that run one after the other. -/
def resultsAt : List Case → List Nat → List Result
  | [], _ => []
  | c :: cases, times => resultAt c (times.head?.getD 0) :: resultsAt cases times.tail

/-- The event of a case that has run. -/
def caseEvent (c : Case) (elapsed : Nat) : Log.Event := measuredEvent c.name c.n c.rounds elapsed

/-- The events of cases that run one after the other. -/
def caseNotes (filter : Log.Filter) : List Case → List Nat → List Effect
  | [], _ => []
  | c :: cases, times =>
    noted filter (caseEvent c (times.head?.getD 0 / 1000000))
      ++ caseNotes filter cases times.tail

theorem exec_measure (filter : Log.Filter) (name : String) (n : UInt32) (rounds : Option Nat)
    (expected : UInt64) (f : Benchmark.Evaluator) (w : World) :
    exec (measure filter name n rounds expected f) w
      = (.ok ⟨name, Benchmark.evaluated f n rounds, expected, w.nextTime / 1000000⟩,
          w.clocked.after (noted filter (measuredEvent name n rounds
            (w.nextTime / 1000000)))) := by
  unfold measure
  rw [exec_bind_of_ok (exec_timed _ w)]
  dsimp only
  rw [exec_bind_of_ok (exec_note filter _ _)]
  rfl

theorem exec_runCase (filter : Log.Filter) (c : Case) (w : World) :
    exec (runCase filter c) w
      = (.ok (resultAt c w.nextTime),
          w.clocked.after (noted filter (caseEvent c (w.nextTime / 1000000)))) :=
  exec_measure filter c.name c.n c.rounds c.expected c.algorithm.evaluate w

theorem exec_mapM_runCase (filter : Log.Filter) (cases : List Case) (w : World) :
    exec (cases.mapM (runCase filter)) w
      = (.ok (resultsAt cases w.times),
          { w with
            times := w.times.drop cases.length
            effects := w.effects ++ caseNotes filter cases w.times }) := by
  induction cases generalizing w with
  | nil =>
    rw [List.mapM_nil, exec_pure]
    simp [resultsAt, caseNotes]
  | cons c cases ih =>
    rw [List.mapM_cons, exec_bind_of_ok (exec_runCase filter c w), exec_bind_of_ok (ih _)]
    simp [resultsAt, caseNotes, World.after, World.clocked, World.nextTime]

theorem resultsAt_eq_nil_iff (cases : List Case) (times : List Nat) :
    resultsAt cases times = [] ↔ cases = [] := by
  rcases cases with _ | ⟨c, cases⟩
  · simp [resultsAt]
  · simp [resultsAt]

theorem suite_ne_nil (maxNaive : UInt32) : Benchmark.suite maxNaive ≠ [] := by
  simp [Benchmark.suite]

/-! ## The lines -/

/-- The lines that tell what came of a case. -/
def linesOf (r : Result) : List Effect :=
  .printed (r.line ++ "\n") :: if r.passed then [] else [.printed (r.complaint ++ "\n")]

theorem exec_printLine_of_open {w : World} (takes : w.outputFull = false) (line : String) :
    exec (printLine line) w = (.ok (), w.after [.printed (line ++ "\n")]) := by
  unfold printLine
  rw [exec_bind_of_ok (exec_print_of_open _ takes)]
  rfl

theorem exec_printLine_of_full {w : World} (full : w.outputFull = true) (line : String) :
    exec (printLine line) w = (.error (.benchmarkLine .noSpace), w) := by
  unfold printLine
  rw [exec_bind_of_ok (exec_print_of_full _ full)]
  rfl

theorem exec_printResult_of_open {w : World} (takes : w.outputFull = false) (r : Result) :
    exec (printResult r) w = (.ok (), w.after (linesOf r)) := by
  unfold printResult linesOf
  rw [exec_bind_of_ok (exec_printLine_of_open takes _)]
  by_cases hpassed : r.passed = true
  · rw [hpassed]
    rfl
  · rw [if_pos (by simp [hpassed]), if_neg hpassed,
      exec_printLine_of_open (by exact takes), World.after_after]
    rfl

theorem exec_forM_printResult_of_open {w : World} (takes : w.outputFull = false)
    (results : List Result) :
    exec (results.forM printResult) w = (.ok (), w.after (results.flatMap linesOf)) := by
  induction results generalizing w with
  | nil =>
    rw [List.flatMap_nil, World.after_nil]
    rfl
  | cons r results ih =>
    change exec (printResult r >>= fun _ => results.forM printResult) w = _
    rw [exec_bind_of_ok (exec_printResult_of_open takes r), ih (by exact takes),
      World.after_after, List.flatMap_cons]

/-- A standard output that is full refuses the first line, and that ends the run. -/
theorem exec_forM_printResult_of_full {w : World} (full : w.outputFull = true)
    {results : List Result} (hresults : results ≠ []) :
    exec (results.forM printResult) w = (.error (.benchmarkLine .noSpace), w) := by
  obtain ⟨r, more, rfl⟩ := List.exists_cons_of_ne_nil hresults
  have hfirst : exec (printResult r) w = (.error (.benchmarkLine .noSpace), w) := by
    unfold printResult
    rw [exec_bind_of_error (exec_printLine_of_full full _)]
  change exec (printResult r >>= fun _ => more.forM printResult) w = _
  rw [exec_bind_of_error hfirst]

/-! ## The whole benchmark -/

/-- What comes of the suite. -/
def suiteResults (maxNaive : UInt32) (times : List Nat) : List Result :=
  resultsAt (Benchmark.suite maxNaive) times

/-- The failure that ends the benchmark, if it fails. -/
def suiteFailure (full : Bool) (results : List Result) : Option Failure :=
  if full then some (.benchmarkLine .noSpace)
  else if 0 < results.countP (!·.passed) then
    some (.benchmarkCases (results.countP (!·.passed)) results.length)
  else none

/-- What the benchmark prints. -/
def suiteLines (full : Bool) (results : List Result) : List Effect :=
  if full then [] else results.flatMap linesOf

/-- The stages come to the failure, or to none, with the lines out. -/
theorem exec_runBenchmark (filter : Log.Filter) (maxNaive : UInt32) (w : World) :
    exec (runBenchmark filter maxNaive) w
      = ((match suiteFailure w.outputFull (suiteResults maxNaive w.times) with
          | none => .ok ()
          | some failure => .error failure),
          { w with
            times := w.times.drop (Benchmark.suite maxNaive).length
            effects := w.effects ++ (caseNotes filter (Benchmark.suite maxNaive) w.times
              ++ suiteLines w.outputFull (suiteResults maxNaive w.times)) }) := by
  have hresults : suiteResults maxNaive w.times ≠ [] := by
    rw [ne_eq, suiteResults, resultsAt_eq_nil_iff]
    exact suite_ne_nil maxNaive
  unfold runBenchmark runSuite
  rw [exec_bind_of_ok (exec_mapM_runCase filter _ w), ← suiteResults]
  rcases hfull : w.outputFull with _ | _
  · rw [exec_bind_of_ok (exec_forM_printResult_of_open rfl _)]
    unfold suiteFailure suiteLines World.after
    by_cases hfailed : 0 < (suiteResults maxNaive w.times).countP (!·.passed)
    · simp only [if_pos hfailed, Bool.false_eq_true, if_false, List.append_assoc]
      rfl
    · simp only [if_neg hfailed, Bool.false_eq_true, if_false, List.append_assoc]
      rfl
  · rw [exec_bind_of_error (exec_forM_printResult_of_full rfl hresults)]
    simp [suiteFailure, suiteLines]

/-- **The course of a benchmark.** The results come from the cases and the times, and past
the start of the run everything else comes from the results and from whether standard output
takes lines. -/
theorem run_of_bench {arguments : List String} {maxNaive : UInt32} {environment : Environment}
    {w : World} {filter : Log.Filter}
    (parsed : Command.Invocation.parse arguments = .ok (.bench maxNaive))
    (started : start environment w = .ok filter) :
    (run arguments environment : StateM World UInt32).run w
      = (statusFor environment.libraries w
            (suiteFailure w.outputFull (suiteResults maxNaive w.times)),
          { w with
            times := w.times.drop (Benchmark.suite maxNaive).length
            effects := w.effects ++ (complaining environment w
              ++ caseNotes filter (Benchmark.suite maxNaive) w.times
              ++ (suiteLines w.outputFull (suiteResults maxNaive w.times)
                ++ told environment.libraries w
                  (suiteFailure w.outputFull (suiteResults maxNaive w.times)))) }) := by
  have hexec := exec_runBenchmark filter maxNaive (w.after (complaining environment w))
  rw [run_of_started started parsed]
  change StateT.run (conclude environment.libraries (runBenchmark filter maxNaive))
    (w.after (complaining environment w)) = _
  rw [run_conclude environment.libraries hexec]
  refine Prod.ext rfl ?_
  simp only [World.after, List.append_assoc]
  rfl

end Program
end Fibonacci
