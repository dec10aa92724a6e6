/-
Running a command again.

The only thing that a run leaves behind is the file of its report. A second run finds it
there, in the place of what was there before, and this could matter to it twice: when it
reads the configuration and when it writes its own report. Neither does. The configuration
is read from the same file as before, as long as that is not the file of the report, and
the report goes to the same place and has the same text. So the second run ends as the
first did (`Ends.again`), and what a run does is known from how it ends.

A run that ends before its report has left nothing, and there is nothing to show.
-/
import Fibonacci.Proofs.Files
import Fibonacci.Proofs.Course

set_option autoImplicit false

namespace Fibonacci.Program

/-- The report is not asked to be written to the file from which the configuration is
read. -/
def ReportApart (environment : Environment) (args : Command.EvalArgs) (files : FileTree) : Prop :=
  ∀ settings format path source place, Resolves files environment args settings →
    settings.report = some ⟨format, .file path⟩ →
    Config.choosePath args.config environment.config = some source →
    files.Names path place → ¬ files.Finds source place

section
variable {environment : Environment} {args : Command.EvalArgs} {files after : FileTree}
  {settings : Settings}

/-- A configuration that was had is had again, from a tree that gained a file elsewhere. -/
theorem configured_of_gains {path : Option String} {place : Location} {config : Config}
    (hgains : files.Gains after place)
    (hapart : ∀ source, path = some source → ¬ files.Finds source place)
    (h : configured files path = .ok config) : configured after path = .ok config := by
  rcases path with _ | source
  · exact h
  · simp only [configured, Config.ofFile] at h ⊢
    rcases hread : files.readText source with cause | text
    · rw [hread] at h
      cases h
    · rw [hread] at h
      rw [hgains.readText_eq_ok (hapart source rfl) hread]
      exact h

theorem Resolves.of_gains {place : Location} (hgains : files.Gains after place)
    (hapart : ∀ source, Config.choosePath args.config environment.config = some source →
      ¬ files.Finds source place)
    (h : Resolves files environment args settings) :
    Resolves after environment args settings := by
  obtain ⟨config, hconfig, hsettings⟩ := h
  exact ⟨config, configured_of_gains hgains hapart hconfig, hsettings⟩

/-- The settings are the same after the report has been written. -/
theorem Resolves.of_writeText {format : Report.Format} {path text : String}
    (apart : ReportApart environment args files) (h : Resolves files environment args settings)
    (inFile : settings.report = some ⟨format, .file path⟩)
    (written : files.writeText path text = .ok after) :
    Resolves after environment args settings := by
  obtain ⟨place, ⟨parts, hparts, hplace⟩, rfl | ⟨free, rfl⟩⟩ := FileTree.writeText_cases written
  · exact h
  · have hgains := FileTree.gains_insert (FileTree.ne_nil_of_locateNew hplace) free text.toUTF8
    apply h.of_gains hgains
    intro source hsource
    exact apart settings format path source place h inFile hsource ⟨parts, hparts, hplace⟩

/-- In the files that a run leaves, it ends as it did. -/
theorem Ends.again {w : World} {ending : Ending} (apart : ReportApart environment args w.files)
    (h : Ends environment args w ending) :
    Ends environment args { w with files := ending.files w.files } ending := by
  -- only the last ending changes the files, and there only a report in a file does
  rcases h with config | ⟨config_ok, bad⟩ | ⟨resolves, exceeds⟩ | ⟨resolves, fits, full⟩
    | ⟨resolves, fits, takes, asked, refused⟩ | ⟨resolves, fits, takes, stored⟩
  · exact .unconfigured config
  · exact .unsettled config_ok bad
  · exact .refused resolves exceeds
  · exact .unprinted resolves fits full
  · exact .unreported resolves fits takes asked (refused.of_eq rfl rfl)
  · rcases stored with unasked | ⟨onError, taken⟩ | ⟨inFile, written⟩
    · exact .done resolves fits takes (.off unasked)
    · exact .done resolves fits takes (.shown onError taken)
    · exact .done (resolves.of_writeText apart inFile written) fits takes
        (.filed inFile (FileTree.writeText_again written))

end

theorem Ending.files_files (before : FileTree) (ending : Ending) :
    ending.files (ending.files before) = ending.files before := by
  rcases ending with _ | _ | _ | _ | _ | _ <;> rfl

/-! ## Main statement -/

/-- For every command line that asks for an evaluation, every environment and every world
in which the report is not to be written to the file of the configuration. A second run
that starts where the first has ended, with the same times to come from the clock, has the
same status, adds the same to standard output and to standard error, in the same order,
and leaves the files as the first has left them. -/
theorem run_again_is_the_same (arguments : List String) (environment : Environment)
    (args : Command.EvalArgs) (w : World)
    (parsed : Command.Invocation.parse arguments = .ok (.evaluate args))
    (apart : ReportApart environment args w.files) :
    ∃ status first second done,
      (run arguments environment : StateM World UInt32).run w = (status, first)
      ∧ (run arguments environment : StateM World UInt32).run { first with times := w.times }
          = (status, second)
      ∧ first.effects = w.effects ++ done ∧ second.effects = first.effects ++ done
      ∧ (∃ text, first.output = w.output ++ text ∧ second.output = first.output ++ text)
      ∧ (∃ told, first.diagnostics = w.diagnostics ++ told
          ∧ second.diagnostics = first.diagnostics ++ told)
      ∧ second.files = first.files := by
  rcases started : start environment w with crash | filter
  · -- a run that is stopped at its start is stopped there again
    exact ⟨_, _, _, _, run_of_stopped arguments started,
      run_of_stopped arguments (by exact started), rfl, rfl,
      ⟨_, World.output_of_effects rfl, World.output_of_effects rfl⟩,
      ⟨_, World.diagnostics_of_effects rfl, World.diagnostics_of_effects rfl⟩, rfl⟩
  · obtain ⟨ending, hends⟩ := exists_ends environment args w
    have hfirst := run_of_ends parsed started hends
    -- the second run finds the files of the first and its effects
    have hsecond := run_of_ends parsed (by exact started)
      ((hends.again apart).after (effectsOf environment args w filter ending))
    have heffects : effectsOf environment args (({ w with files := ending.files w.files }).after
        (effectsOf environment args w filter ending)) filter ending
        = effectsOf environment args w filter ending := rfl
    rw [heffects] at hsecond
    refine ⟨_, _, _, _, hfirst, hsecond, rfl, rfl, ?_, ?_, ending.files_files w.files⟩
    · exact ⟨_, World.output_of_effects rfl, World.output_of_effects rfl⟩
    · exact ⟨_, World.diagnostics_of_effects rfl, World.diagnostics_of_effects rfl⟩

/-- A tree with a configuration that asks for a report in another file. -/
def reportingTree : FileTree :=
  FileTree.fresh.insert ["work", "c.toml"]
    (.file "n = 10\nreport = \"json:r.json\"\n".toUTF8)

/-- The second run finds the report of the first next to the configuration, and leaves it
as it is. -/
theorem run_again_with_report :
    ∃ status first second,
      (run ["--config=c.toml"] {} : StateM World UInt32).run { files := reportingTree }
          = (status, first)
      ∧ (run ["--config=c.toml"] {} : StateM World UInt32).run { first with times := [] }
          = (status, second)
      ∧ second.output = first.output ++ first.output ∧ second.files = first.files := by
  have parsed : Command.Invocation.parse ["--config=c.toml"]
      = .ok (.evaluate { config := some "c.toml" }) := by
    decide +kernel
  have hconfig : configured reportingTree (some "c.toml")
      = .ok { n := some 10, report := some "json:r.json" } := by
    decide +kernel
  have hsettings : Settings.resolve {} { n := some 10, report := some "json:r.json" }
      = .ok ⟨10, .naive, some ⟨.json, .file "r.json"⟩⟩ := by
    decide +kernel
  have hnames : reportingTree.Names "r.json" ["work", "r.json"] :=
    ⟨⟨false, ["r.json"], false⟩, by decide +kernel, by decide +kernel⟩
  have hfinds : reportingTree.Finds "c.toml" ["work", "c.toml"] :=
    ⟨⟨false, ["c.toml"], false⟩, by decide +kernel, by decide +kernel⟩
  have apart : ReportApart {} { config := some "c.toml" } reportingTree := by
    rintro settings format path source place ⟨config, hconfig', hsettings'⟩ hreport hsource
      hnames' hfinds'
    obtain rfl := Option.some.inj hsource
    obtain rfl := Except.ok.inj (hconfig.symm.trans hconfig')
    obtain rfl := Except.ok.inj (hsettings.symm.trans hsettings')
    obtain ⟨-, hpath⟩ := Report.Spec.mk.inj (Option.some.inj hreport)
    obtain rfl := Report.Destination.file.inj hpath
    have hplaces := (hnames.unique hnames').trans (hfinds.unique hfinds').symm
    exact absurd hplaces (by decide)
  obtain ⟨status, first, second, done, hfirst, hsecond, -, -, ⟨text, houtput, houtput'⟩, -,
    hfiles⟩ := run_again_is_the_same _ {} _ { files := reportingTree } parsed apart
  refine ⟨status, first, second, hfirst, hsecond, ?_, hfiles⟩
  have hempty : ({ files := reportingTree } : World).output = "" := rfl
  rw [houtput', houtput, hempty, String.empty_append]

end Fibonacci.Program
