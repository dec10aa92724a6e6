/-
An index that is too large.

There are two places where a run notices it. Above thirty-two bits the text of the index
is refused, while the settings are resolved; below, the index is let through and the
evaluator refuses it, whichever it is and whether or not it counts. The run shows nothing
of this: from 94 up to the last number of sixty-four bits it ends with the same message,
in which the number is written as its canonical numeral, however it was given.

The two places are two endings of a run (`Ends.unsettled` and `Ends.refused`), and that
they tell the same is `exists_ends_of_overflow`.
-/
import Fibonacci.Proofs.Footprint
import Fibonacci.Proofs.Indices

set_option autoImplicit false

namespace Fibonacci

/-! ## Texts for a number -/

/-- Without the blanks around it the text is a run of digits for the number, with or
without a plus sign before them. -/
def Index.Denotes (text : String) (v : ℕ) : Prop :=
  ∃ digits, (Text.trim text.toList = digits ∨ Text.trim text.toList = '+' :: digits)
    ∧ Text.isNumeral digits = true ∧ Text.valueOf digits = v

theorem Index.parse_of_denotes {text : String} {v : ℕ} (h : Denotes text v)
    (hlt : v < 2 ^ 64) : parse text = ofNat v := by
  obtain ⟨digits, htext, hnumeral, rfl⟩ := h
  have hplain : Text.withoutPlus (Text.trim text.toList) = digits := by
    rcases htext with htext | htext
    · rw [htext, Text.withoutPlus_of_isNumeral hnumeral]
    · rw [htext]
      rfl
  rw [parse, ofTrimmed_of_isNumeral (by rw [hplain]; exact hnumeral), hplain]
  exact if_pos hlt

theorem Index.toUInt64_ofNat {v : ℕ} (h : v < 2 ^ 32) :
    (UInt32.ofNat v).toUInt64 = UInt64.ofNat v := by
  apply UInt64.toNat_inj.mp
  rw [UInt32.toNat_toUInt64, UInt32.toNat_ofNat_of_lt' h,
    UInt64.toNat_ofNat_of_lt' (lt_trans h (by decide))]

/-! ## Where the run ends -/

theorem Evaluator.fib_exceeds {v : ℕ} (hlow : 94 ≤ v) (hlt : v < 2 ^ 32) :
    ¬ Nat.fib (UInt32.ofNat v).toNat ≤ 2 ^ 64 - 1 := by
  have hmax : maxIndex.toNat = 93 := rfl
  rw [UInt32.toNat_ofNat_of_lt' hlt, fib_le_iff]
  omega

namespace Program

/-- From 94 on every evaluator refuses, counting or not. -/
theorem compute_of_overflow {v : ℕ} (hlow : 94 ≤ v) (hlt : v < 2 ^ 32) (algorithm : Algorithm)
    (counting : Bool) :
    compute algorithm (UInt32.ofNat v) counting = .error (.overflow (UInt64.ofNat v)) := by
  rw [compute_eq, if_neg (Evaluator.fib_exceeds hlow hlt), Index.toUInt64_ofNat hlt]

section
variable {environment : Environment} {args : Command.EvalArgs} {w : World} {text : String}
  {v : ℕ} {config : Config} {algorithm : Algorithm} {report : Option Report.Spec}
  (given : args.n = some text) (denotes : Index.Denotes text v)
  (loads : configured w.files (Config.choosePath args.config environment.config) = .ok config)
include given denotes loads

/-- Above thirty-two bits the settings are refused. -/
theorem Ends.unsettled_of_overflow (hlow : 2 ^ 32 ≤ v) (hhigh : v < 2 ^ 64) :
    Ends environment args w (.unsettled (.index (.overflow (UInt64.ofNat v)))) := by
  refine .unsettled loads (Settings.resolve_of_index_error ?_)
  simp only [overridesOf, given, Settings.resolveIndex, Index.parse_of_denotes denotes hhigh,
    Index.ofNat_of_le hlow]
  rfl

/-- Up to thirty-two bits the settings are good and the evaluation is refused. -/
theorem Ends.refused_of_overflow
    (valid : Settings.resolveAlgorithm args.algorithm config.algorithm = .ok algorithm)
    (valid' : Settings.resolveReport args.report config.report = .ok report)
    (hlow : 94 ≤ v) (hlt : v < 2 ^ 32) :
    Ends environment args w (.refused ⟨UInt32.ofNat v, algorithm, report⟩) := by
  have hindex : Settings.resolveIndex args.n config.n = .ok (UInt32.ofNat v) := by
    simp only [given, Settings.resolveIndex,
      Index.parse_of_denotes denotes (lt_trans hlt (by decide)), Index.ofNat_of_lt hlt]
    rfl
  exact .refused ⟨config, loads, Settings.resolve_eq_ok_iff.mpr ⟨hindex, valid, valid'⟩⟩
    (Evaluator.fib_exceeds hlow hlt)

/-- Wherever the run ends, it tells the same failure and prints nothing. -/
theorem exists_ends_of_overflow
    (valid : Settings.resolveAlgorithm args.algorithm config.algorithm = .ok algorithm)
    (valid' : Settings.resolveReport args.report config.report = .ok report)
    (hlow : 94 ≤ v) (hhigh : v < 2 ^ 64) :
    ∃ ending failure, Ends environment args w ending ∧ ending.failure = some failure
      ∧ ending.printing = []
      ∧ failure.message environment.libraries
        = (EvalError.overflow (UInt64.ofNat v)).message := by
  rcases lt_or_ge v (2 ^ 32) with hlt | hge
  · have hends := Ends.refused_of_overflow given denotes loads valid valid' hlow hlt
    refine ⟨_, _, hends, rfl, rfl, ?_⟩
    rw [Index.toUInt64_ofNat hlt]
    rfl
  · exact ⟨_, _, Ends.unsettled_of_overflow given denotes loads hge hhigh, rfl, rfl, rfl⟩

end

/-! ## Main statement -/

/-- For every command line that asks for an evaluation and gives an index by a text for a
number from 94 up to the last of sixty-four bits, for every environment and every world in
which the configuration can be had and the algorithm and the report are good, where the
filter is read lossily and standard error takes notices. The run
fails with status 1, prints nothing, leaves the files as they were, and ends with the
message of an overflow that names the number by its canonical numeral. Below `2 ^ 32` the
index is let through and every evaluator gives that error; from there on the reading of
the index gives it. -/
theorem run_tells_overflow_uniformly (arguments : List String) (environment : Environment)
    (args : Command.EvalArgs) (w : World) (text : String) (v : ℕ) (config : Config)
    (algorithm : Algorithm) (report : Option Report.Spec)
    (parsed : Command.Invocation.parse arguments = .ok (.evaluate args))
    (lossy : environment.libraries.ReadsLossily environment.filter)
    (notices : w.TakesNotices) (given : args.n = some text) (denotes : Index.Denotes text v)
    (low : 94 ≤ v) (high : v < 2 ^ 64)
    (loads : configured w.files (Config.choosePath args.config environment.config) = .ok config)
    (validAlgorithm : Settings.resolveAlgorithm args.algorithm config.algorithm = .ok algorithm)
    (validReport : Settings.resolveReport args.report config.report = .ok report) :
    ∃ final, (run arguments environment : StateM World UInt32).run w = (1, final)
      ∧ final.output = w.output ∧ final.files = w.files
      ∧ final.diagnostics.getLast?
          = some (.text ("Error: " ++ (EvalError.overflow (UInt64.ofNat v)).message ++ "\n"))
      ∧ (EvalError.overflow (UInt64.ofNat v)).message
          = "fib(" ++ toString v
            ++ ") overflows a 64-bit unsigned integer (largest supported n is 93)"
      ∧ (v < 2 ^ 32 → Index.parse text = .ok (UInt32.ofNat v)
          ∧ ∀ algorithm counting,
            compute algorithm (UInt32.ofNat v) counting = .error (.overflow (UInt64.ofNat v)))
      ∧ (2 ^ 32 ≤ v → Index.parse text = .error (.overflow (UInt64.ofNat v))) := by
  have hparse := Index.parse_of_denotes denotes high
  obtain ⟨ending, failure, hends, hfailure, hprinting, hmessage⟩ :=
    exists_ends_of_overflow given denotes loads validAlgorithm validReport low high
  obtain ⟨final, hrun, houtput, hfiles, hlast⟩ :=
    run_of_failure parsed lossy notices hends hfailure hprinting
  refine ⟨final, hrun, houtput, hfiles, ?_, EvalError.message_overflow high, ?_, ?_⟩
  · rw [hlast, errorLine, hmessage]
  · intro hlt
    rw [hparse, Index.ofNat_of_lt hlt]
    exact ⟨rfl, compute_of_overflow low hlt⟩
  · intro hge
    rw [hparse, Index.ofNat_of_le hge]

/-- The first number that is refused, with blanks, a plus sign and leading zeros, and the
last one: the first is refused by the evaluator and the last by the reading. -/
theorem run_overflow_at_bounds :
    (∃ final, (run [" +00094\n"] {} : StateM World UInt32).run { files := .fresh } = (1, final)
      ∧ final.output = ""
      ∧ final.diagnostics.getLast? = some (.text ("Error: fib(94) overflows a 64-bit unsigned " ++
          "integer (largest supported n is 93)\n")))
    ∧ ∃ final, (run ["18446744073709551615", "-aiterative"] {} : StateM World UInt32).run
        { files := .fresh } = (1, final)
      ∧ final.output = ""
      ∧ final.diagnostics.getLast? = some (.text ("Error: fib(18446744073709551615) overflows " ++
          "a 64-bit unsigned integer (largest supported n is 93)\n")) := by
  have parsed : Command.Invocation.parse [" +00094\n"]
      = .ok (.evaluate { n := some " +00094\n" }) := by
    decide +kernel
  have parsed' : Command.Invocation.parse ["18446744073709551615", "-aiterative"]
      = .ok (.evaluate { n := some "18446744073709551615", algorithm := some .iterative }) := by
    decide +kernel
  have denotes : Index.Denotes " +00094\n" 94 :=
    ⟨"00094".toList, .inr (by decide +kernel), by decide +kernel, by decide +kernel⟩
  have denotes' : Index.Denotes "18446744073709551615" 18446744073709551615 :=
    ⟨"18446744073709551615".toList, .inl (by decide +kernel), by decide +kernel,
      by decide +kernel⟩
  obtain ⟨final, hrun, houtput, -, hlast, hmessage, -⟩ := run_tells_overflow_uniformly _ {} _
    { files := .fresh } _ _ {} .naive none parsed rfl nofun rfl denotes (by decide) (by decide) rfl
    rfl rfl
  obtain ⟨final', hrun', houtput', -, hlast', hmessage', -⟩ := run_tells_overflow_uniformly _ {} _
    { files := .fresh } _ _ {} .iterative none parsed' rfl nofun rfl denotes' (by decide)
    (by decide) rfl rfl rfl
  refine ⟨⟨final, hrun, houtput, ?_⟩, final', hrun', houtput', ?_⟩
  · rw [hlast, hmessage]
    decide +kernel
  · rw [hlast', hmessage']
    decide +kernel

end Program
end Fibonacci
