/-
A source that is shadowed has no effect.

There are two places where one source stands before another. The option that names a
configuration file stands before the environment variable, and an empty variable counts
as none. An option for a setting stands before its key in the file. In both cases
nothing is seen of the source behind: not which file the variable names or whether it
could be read, and not the value of the key, be it one that the program would refuse.

For the variable this is an equality of whole runs, since a run depends on it only
through the path that is chosen. For a key the files differ as well, so the comparison
is between endings: every stage comes to the same, and the files in the end still differ
at most in the file in which they did.
-/
import Fibonacci.Proofs.Files
import Fibonacci.Proofs.Outcome
import Fibonacci.Proofs.Sources

set_option autoImplicit false

namespace Fibonacci.Program

/-! ## The variable -/

/-- A run depends on the variable only through the path that is chosen. -/
theorem run_eq_of_path_eq {arguments : List String} {args : Command.EvalArgs}
    (parsed : Command.Invocation.parse arguments = .ok (.evaluate args))
    {value₁ value₂ : Option String}
    (hpath : Config.choosePath args.config value₁ = Config.choosePath args.config value₂)
    (filter : Option String) (libraries : Libraries) (w : World) :
    (run arguments ⟨value₁, filter, libraries⟩ : StateM World UInt32).run w
      = (run arguments ⟨value₂, filter, libraries⟩ : StateM World UInt32).run w := by
  rcases started : start ⟨value₁, filter, libraries⟩ w with crash | directives
  · -- the start has nothing to do with the variable
    rw [run_of_stopped arguments started, run_of_stopped arguments (by exact started)]
    rfl
  · obtain ⟨ending, hends⟩ := exists_ends ⟨value₁, filter, libraries⟩ args w
    have hends₂ : Ends ⟨value₂, filter, libraries⟩ args w ending := hends.of_path_eq hpath
    have heffects : effectsOf ⟨value₁, filter, libraries⟩ args w directives ending
        = effectsOf ⟨value₂, filter, libraries⟩ args w directives ending := by
      unfold effectsOf complaining
      dsimp only
      rw [hpath]
      rfl
    rw [run_of_ends parsed started hends, run_of_ends parsed (by exact started) hends₂, heffects]

/-! ## The keys -/

section
variable {w : World} {files : FileTree} {place : Location} {settings : Settings}
  (hfiles : w.files.DifferIn files place)
include hfiles

/-- A report that can be written can be written in the other files too. -/
theorem Stored.of_differIn {after : FileTree} (h : Stored w settings after) :
    ∃ after', Stored { w with files := files } settings after'
      ∧ FileTree.LeavesDiffer w.files files after after' place := by
  rcases h with unasked | ⟨onError, taken⟩ | ⟨inFile, written⟩
  · exact ⟨files, .off unasked, hfiles.leavesDiffer⟩
  · exact ⟨files, .shown onError taken, hfiles.leavesDiffer⟩
  · rcases FileTree.writeText_of_differIn hfiles _ _ with
      ⟨cause, hbefore, -⟩ | ⟨after₁, after', hbefore, hother, hleaves⟩
    · rw [written] at hbefore
      cases hbefore
    · rw [written] at hbefore
      cases hbefore
      exact ⟨after', .filed inFile hother, hleaves⟩

/-- One that is refused is refused in the other files too. -/
theorem Refuses.of_differIn {report : Report} {spec : Report.Spec} {cause : FileError}
    (h : Refuses w report spec cause) : Refuses { w with files := files } report spec cause := by
  rcases h with refused | refused
  · exact .onError refused
  · rcases FileTree.writeText_of_differIn hfiles _ _ with
      ⟨cause, hbefore, hrefused⟩ | ⟨after, after', hbefore, -, -⟩
    · rw [refused] at hbefore
      cases hbefore
      exact .inFile hrefused
    · rw [refused] at hbefore
      cases hbefore

end

section
variable {environment : Environment} {args : Command.EvalArgs} {w : World} {files : FileTree}
  {place : Location} {config other : Config}
  (hconfig : configured w.files (Config.choosePath args.config environment.config) = .ok config)
  (hother : configured files (Config.choosePath args.config environment.config) = .ok other)
  (hagree : Settings.AgreeUnder (overridesOf args) config other)
include hconfig hother hagree

theorem Resolves.of_agreeUnder {settings : Settings}
    (h : Resolves w.files environment args settings) :
    Resolves files environment args settings := by
  obtain ⟨config', hconfig', hsettings⟩ := h
  obtain rfl : config = config' := Except.ok.inj (hconfig.symm.trans hconfig')
  exact ⟨other, hother, by rw [← Settings.resolve_congr hagree, hsettings]⟩

/-- Every stage comes to the same in the other files. -/
theorem Ends.of_agreeUnder {ending : Ending} (hfiles : w.files.DifferIn files place)
    (h : Ends environment args w ending) :
    ∃ ending', Ends environment args { w with files := files } ending'
      ∧ ending'.failure = ending.failure
      ∧ (∀ filter, effectsOf environment args { w with files := files } filter ending'
          = effectsOf environment args w filter ending)
      ∧ FileTree.LeavesDiffer w.files files (ending.files w.files) (ending'.files files) place := by
  have hresolves : ∀ {settings}, Resolves w.files environment args settings →
      Resolves files environment args settings := Resolves.of_agreeUnder hconfig hother hagree
  cases h with
  | unconfigured bad =>
    rw [hconfig] at bad
    cases bad
  | @unsettled config' cause config_ok bad =>
    obtain rfl : config = config' := Except.ok.inj (hconfig.symm.trans config_ok)
    rw [Settings.resolve_congr hagree] at bad
    exact ⟨_, .unsettled hother bad, rfl, fun _ => rfl, hfiles.leavesDiffer⟩
  | refused resolves exceeds =>
    exact ⟨_, .refused (hresolves resolves) exceeds, rfl, fun _ => rfl, hfiles.leavesDiffer⟩
  | unprinted resolves fits full =>
    exact ⟨_, .unprinted (hresolves resolves) fits full, rfl, fun _ => rfl, hfiles.leavesDiffer⟩
  | unreported resolves fits takes asked refused =>
    exact ⟨_, .unreported (hresolves resolves) fits takes asked (refused.of_differIn hfiles), rfl,
      fun _ => rfl, hfiles.leavesDiffer⟩
  | done resolves fits takes stored =>
    obtain ⟨after', stored', hleaves⟩ := stored.of_differIn hfiles
    exact ⟨.done _ after', .done (hresolves resolves) fits takes stored', rfl, fun _ => rfl,
      hleaves⟩

end

/-! ## Main statement -/

/-- For every command line that asks for an evaluation, every filter, all libraries and every
world. A run that is given a configuration file by option is the same whatever the environment
variable says. Without the option it is the same with the variable unset and empty. And
if the file that is read has another content, with which the configuration still agrees
on all keys that no option overrides, the run has the same status and does the same, on
both channels and in the file of the report; the files in the end are the same but for
the content that was different, where the report has not replaced it. -/
theorem run_ignores_shadowed_sources (arguments : List String) (args : Command.EvalArgs)
    (filter : Option String) (libraries : Libraries) (w : World)
    (parsed : Command.Invocation.parse arguments = .ok (.evaluate args)) :
    (∀ path value₁ value₂, args.config = some path →
      (run arguments ⟨value₁, filter, libraries⟩ : StateM World UInt32).run w
        = (run arguments ⟨value₂, filter, libraries⟩ : StateM World UInt32).run w)
    ∧ (args.config = none →
      (run arguments ⟨none, filter, libraries⟩ : StateM World UInt32).run w
        = (run arguments ⟨some "", filter, libraries⟩ : StateM World UInt32).run w)
    ∧ (∀ value files place config other, w.files.DifferIn files place →
      configured w.files (Config.choosePath args.config value) = .ok config →
      configured files (Config.choosePath args.config value) = .ok other →
      Settings.AgreeUnder (overridesOf args) config other →
      statusOf arguments ⟨value, filter, libraries⟩ { w with files := files }
          = statusOf arguments ⟨value, filter, libraries⟩ w
      ∧ (worldOf arguments ⟨value, filter, libraries⟩ { w with files := files }).effects
          = (worldOf arguments ⟨value, filter, libraries⟩ w).effects
      ∧ FileTree.LeavesDiffer w.files files (worldOf arguments ⟨value, filter, libraries⟩ w).files
          (worldOf arguments ⟨value, filter, libraries⟩ { w with files := files }).files place) := by
  refine ⟨?_, ?_, ?_⟩
  · intro path value₁ value₂ hoption
    apply run_eq_of_path_eq parsed
    rw [hoption]
    rfl
  · intro hoption
    apply run_eq_of_path_eq parsed
    rw [hoption]
    rfl
  · intro value files place config other hfiles hconfig hother hagree
    rcases started : start ⟨value, filter, libraries⟩ w with crash | directives
    · -- a run that is stopped at its start has looked at no file
      unfold statusOf worldOf
      rw [run_of_stopped arguments started, run_of_stopped arguments (by exact started)]
      exact ⟨rfl, rfl, hfiles.leavesDiffer⟩
    · obtain ⟨ending, hends⟩ := exists_ends ⟨value, filter, libraries⟩ args w
      obtain ⟨ending', hends', hfailure, heffects, hleaves⟩ :=
        hends.of_agreeUnder hconfig hother hagree hfiles
      obtain ⟨hstatus₁, hfiles₁, heffects₁⟩ := of_ends parsed started hends
      obtain ⟨hstatus₂, hfiles₂, heffects₂⟩ := of_ends parsed (by exact started) hends'
      refine ⟨?_, ?_, ?_⟩
      · rw [hstatus₂, hfailure, hstatus₁]
        rfl
      · rw [heffects₂, heffects, heffects₁]
      · rw [hfiles₁, hfiles₂]
        exact hleaves

/-- An index that no run would take stands in the file, hidden by the one on the command
line, and the variable names a file that is not there, or is empty. -/
theorem run_ignores_shadowed_index :
    (run ["10", "--config=c.toml"] { config := some "missing" } : StateM World UInt32).run
        { files := FileTree.fresh.insert ["work", "c.toml"] (.file "n = -1\n".toUTF8) }
      = (run ["10", "--config=c.toml"] {} : StateM World UInt32).run
        { files := FileTree.fresh.insert ["work", "c.toml"] (.file "n = -1\n".toUTF8) }
    ∧ (run ["10"] {} : StateM World UInt32).run { files := .fresh }
      = (run ["10"] { config := some "" } : StateM World UInt32).run { files := .fresh }
    ∧ (worldOf ["10", "--config=c.toml"] {}
        { files := FileTree.fresh.insert ["work", "c.toml"] (.file "n = 7\n".toUTF8) }).effects
      = (worldOf ["10", "--config=c.toml"] {}
        { files := FileTree.fresh.insert ["work", "c.toml"] (.file "n = -1\n".toUTF8) }).effects
    := by
  have parsed : Command.Invocation.parse ["10", "--config=c.toml"]
      = .ok (.evaluate { n := some "10", config := some "c.toml" }) := by
    decide +kernel
  have parsed' : Command.Invocation.parse ["10"] = .ok (.evaluate { n := some "10" }) := by
    decide +kernel
  have hhere : ∀ content, (FileTree.fresh.insert ["work", "c.toml"] (.file content)).lookup
      ["work", "c.toml"] = some (.file content) :=
    fun content => FileTree.lookup_insert_self _ (by decide) _
  have hfiles : (FileTree.fresh.insert ["work", "c.toml"] (.file "n = -1\n".toUTF8)).DifferIn
      (FileTree.fresh.insert ["work", "c.toml"] (.file "n = 7\n".toUTF8)) ["work", "c.toml"] := by
    refine ⟨rfl, rfl, rfl, ?_, _, _, hhere _, hhere _⟩
    intro other hother
    rw [FileTree.lookup_insert_of_ne _ _ hother, FileTree.lookup_insert_of_ne _ _ hother]
  obtain ⟨hoption, -, hkeys⟩ :=
    run_ignores_shadowed_sources ["10", "--config=c.toml"] _ none .standIn
      { files := FileTree.fresh.insert ["work", "c.toml"] (.file "n = -1\n".toUTF8) } parsed
  obtain ⟨-, hempty, -⟩ :=
    run_ignores_shadowed_sources ["10"] _ none .standIn { files := .fresh } parsed'
  refine ⟨hoption "c.toml" (some "missing") none rfl, hempty rfl, ?_⟩
  refine (hkeys none _ _ { n := some (-1) } { n := some 7 } hfiles ?_ ?_ ?_).2.1
  · decide +kernel
  · decide +kernel
  · exact ⟨nofun, fun _ => rfl, fun _ => rfl⟩

end Fibonacci.Program
