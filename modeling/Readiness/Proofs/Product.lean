import Readiness.Proofs.ConfigFailure
import Readiness.Proofs.JsonReading

/-!
What the verbosity of a run has no part in. Reports are all that a console puts on standard
output; what they say, where they go and how the run ends is the same whatever the verbosity, be
it the one given at the start or the one of the configuration.
-/

namespace Readiness

section Streams

/-- The texts that a run tells as reports. -/
def Transcript.reports (t : Transcript) : List String := t.finish.1.filterMap Action.report?

theorem Transcript.reports_recording (t : Transcript) (given : Verbosity) :
    (t.recording given).reports = t.reports :=
  Recording.reports_ofActions given

theorem Console.stdout_written (console : Console) (a : Action) :
    (console.written a).stdout = String.join a.report?.toList := by
  have hline (shown : Bool) (text : String) : (Streams.line shown text).stdout = "" := by
    cases shown <;> rfl
  cases a with
  | report text => exact String.empty_append.symm
  | spinnerClear | verbosity _ => rfl
  | _ => exact hline _ _

theorem Console.stdout_output (console : Console) (actions : List Action) :
    (console.output actions).stdout = String.join (actions.filterMap Action.report?) := by
  -- What an action puts on the stream does not depend on what the console shows.
  induction actions generalizing console with
  | nil => rfl
  | cons a actions ih =>
      rw [output, Streams.append, ih, stdout_written, ← String.join_append, List.filterMap_cons]
      cases a.report? <;> rfl

end Streams

section Time

/-- A moment as a report for machines has it. -/
def stampText (moment : Time.Stamp) : String := String.ofList (Json.stringText moment.rfc3339)

/-- The texts are the same, or would be if they had been written at the same moment. -/
inductive SameButTime (now now' : Time.Stamp) : String → String → Prop
  | same (text : String) : SameButTime now now' text text
  | stamped (before after : String) : SameButTime now now'
    (before ++ stampText now ++ after) (before ++ stampText now' ++ after)

theorem jsonText_eq (results : List CheckResult) (v : Verdict) :
    ∃ before after, ∀ moment,
      Report.Json.text moment results v = before ++ stampText moment ++ after := by
  -- The time is the second member of the document.
  let version := Json.memberText .indented 0 "version" (.string Report.Json.toolVersion)
  let name := Json.Layout.lineBreak .indented 1 ++
    (Json.stringText "generated_at" ++ Json.Layout.colon .indented)
  let behind := Json.memberChars .indented 0
    [("summary", Report.Json.verdictValue v),
     ("checks", .array (results.map Report.Json.resultValue))]
  refine ⟨String.ofList ('\x7b' :: (version ++ ',' :: name)), String.ofList behind ++ "\n", ?_⟩
  intro moment
  have hchars : (Report.Json.document moment results v).chars .indented 0 =
      '\x7b' :: (version ++ ',' :: name) ++ (Json.stringText moment.rfc3339 ++ behind) := by
    rw [Report.Json.document, Json.chars_object, Json.memberChars_cons]
    simp only [version, name, behind, Json.memberText, Json.Value.chars, List.cons_append,
      List.append_assoc]
  rw [Report.Json.text, Json.Value.pretty, hchars, String.ofList_append, String.ofList_append,
    stampText]
  simp only [String.append_assoc]

theorem render_sameButTime (format : ReportFormat) (useColor : Bool) (now now' : Time.Stamp)
    (results : List CheckResult) (v : Verdict) :
    SameButTime now now' (Report.render format useColor now results v)
      (Report.render format useColor now' results v) := by
  cases format with
  | human =>
      rw [Report.render_human, Report.render_human]
      exact .same _
  | json =>
      obtain ⟨before, after, htext⟩ := jsonText_eq results v
      rw [Report.render_json, Report.render_json, htext, htext]
      exact .stamped before after
  | html =>
      rw [Report.render_html, Report.render_html]
      exact .same _

end Time

section Pairs

/-- The configuration with the normal verbosity in place of its own. -/
def Config.atNormal (c : Config) : Config :=
  { c with settings := { c.settings with defaultOutput := .normal } }

/-- Two environments that a run of the checks finds the same, but for the time and for the
verbosity that the configuration asks for. -/
structure SameButVerbosity (o : CheckOptions) (config : Option Path) (env env' : Environment) :
    Prop where
  loaded : (Config.loadFor env.surroundings env.root config).map Config.atNormal =
    (Config.loadFor env'.surroundings env'.root config).map Config.atNormal
  agent : o.agent env.surroundings.files = o.agent env'.surroundings.files
  write : env.surroundings.files.write = env'.surroundings.files.write
  host : env.host = env'.host
  colors : env.colors = env'.colors

/-- What two runs leave behind is the same, but for the time. -/
structure SameProduct (now now' : Time.Stamp) (t t' : Transcript) : Prop where
  reports : List.Forall₂ (SameButTime now now') t.reports t'.reports
  written : List.Forall₂ (fun file file' => file.1 = file'.1 ∧ SameButTime now now' file.2 file'.2)
    t.written t'.written
  exit : t.finish.2 = t'.finish.2

variable {o : CheckOptions} {env env' : Environment} {config : Option Path} {c c' : Config}

theorem resolve_atNormal (o : CheckOptions) (env : Environment) (config : Option Path) :
    (o.resolve env config).map Config.atNormal = (do
      let loaded ← (Config.loadFor env.surroundings env.root config).map Config.atNormal
      let agent ← o.agent env.surroundings.files
      (o.effective agent loaded).validate
      return o.effective agent loaded) := by
  rw [CheckOptions.resolve]
  cases Config.loadFor env.surroundings env.root config with
  | error failure => rfl
  | ok loaded =>
      cases o.agent env.surroundings.files with
      | error failure => rfl
      | ok agent =>
          -- The rules say nothing of the verbosity.
          have hvalid : (o.effective agent loaded.atNormal).validate =
              (o.effective agent loaded).validate := rfl
          simp only [Except.map, bind, Except.bind, hvalid]
          cases (o.effective agent loaded).validate <;> rfl

theorem SameButVerbosity.resolve (h : SameButVerbosity o config env env') :
    (o.resolve env config).map Config.atNormal = (o.resolve env' config).map Config.atNormal := by
  rw [resolve_atNormal, resolve_atNormal, h.loaded, h.agent]

theorem SameButVerbosity.results (h : SameButVerbosity o config env env')
    (hc : c.atNormal = c'.atNormal) :
    CheckOptions.results c env = CheckOptions.results c' env' := by
  have hchecks : c.checks = c'.checks := by
    have hchecks := congrArg Config.checks hc
    exact hchecks
  rw [CheckOptions.results, CheckOptions.results, hchecks, h.host]

theorem SameButVerbosity.report (h : SameButVerbosity o config env env')
    (hc : c.atNormal = c'.atNormal) :
    SameButTime env.now env'.now (o.report c env) (o.report c' env') := by
  have hformat : c.settings.format = c'.settings.format := by
    have hsettings := congrArg Config.settings hc
    exact (Settings.mk.inj hsettings).2.1
  have hcolor : o.useColor env c = o.useColor env' c' := by
    rw [CheckOptions.useColor, CheckOptions.useColor, hformat, h.colors]
  rw [CheckOptions.report, CheckOptions.report, hformat, h.results hc, hcolor]
  exact render_sameButTime ..

theorem Delivers.reports {report : String} {given : Verbosity} {t : Transcript}
    (h : Delivers o report given t) : t.reports = if o.output.isSome then [] else [report] := by
  rw [← t.reports_recording given]
  exact h.told_once

theorem Refuses.reports {given : Verbosity} {t : Transcript} (h : Refuses given t) :
    t.reports = [] := by
  rw [← t.reports_recording given]
  exact h.not_told

variable {now now' : Time.Stamp} {t t' : Transcript} {given given' : Verbosity}

theorem sameProduct_of_refuses (h : Refuses given t) (h' : Refuses given' t')
    (hexit : t.finish.2 = t'.finish.2) : SameProduct now now' t t' where
  reports := by
    rw [h.reports, h'.reports]
    exact .nil
  written := by
    rw [h.not_written, h'.not_written]
    exact .nil
  exit := hexit

theorem sameProduct_of_delivers {report report' : String}
    (hreport : SameButTime now now' report report') (h : Delivers o report given t)
    (h' : Delivers o report' given' t') (hexit : t.finish.2 = t'.finish.2) :
    SameProduct now now' t t' where
  reports := by
    rw [h.reports, h'.reports]
    cases o.output with
    | none => exact .cons hreport .nil
    | some file => exact .nil
  written := by
    rw [h.written_once, h'.written_once]
    cases o.output with
    | none => exact .nil
    | some file => exact .cons ⟨rfl, hreport⟩ .nil
  exit := hexit

theorem SameButVerbosity.run_of_configs (h : SameButVerbosity o config env env')
    (hc : o.resolve env config = .ok c) (hc' : o.resolve env' config = .ok c')
    (hsame : c.atNormal = c'.atNormal) (given given' : Verbosity) :
    SameProduct env.now env'.now (o.run env given config) (o.run env' given' config) := by
  obtain ⟨file, cause, houtput, hwrite, hrefuses, hexit⟩ | ⟨hwritable, hdelivers, hexit⟩ :=
    run_of_config hc given
  · obtain ⟨_, _, -, -, hrefuses', hexit'⟩ | ⟨hwritable', -, -⟩ := run_of_config hc' given'
    · exact sameProduct_of_refuses hrefuses hrefuses' (hexit.trans hexit'.symm)
    · rw [h.write, hwritable' file houtput] at hwrite
      cases hwrite
  · obtain ⟨file', cause', houtput', hwrite', -, -⟩ | ⟨-, hdelivers', hexit'⟩ :=
      run_of_config hc' given'
    · rw [← h.write, hwritable file' houtput'] at hwrite'
      cases hwrite'
    · rw [← h.results hsame] at hexit'
      exact sameProduct_of_delivers (h.report hsame) hdelivers hdelivers'
        (hexit.trans hexit'.symm)

theorem SameButVerbosity.run (h : SameButVerbosity o config env env') (given given' : Verbosity) :
    SameProduct env.now env'.now (o.run env given config) (o.run env' given' config) := by
  have hresolve := h.resolve
  cases hc : o.resolve env config with
  | error failure =>
      cases hc' : o.resolve env' config with
      | ok c' =>
          rw [hc, hc'] at hresolve
          cases hresolve
      | error failure' =>
          rw [hc, hc'] at hresolve
          obtain rfl : failure = failure' := Except.error.inj hresolve
          obtain ⟨hrefuses, hexit⟩ := run_of_failure hc given
          obtain ⟨hrefuses', hexit'⟩ := run_of_failure hc' given'
          exact sameProduct_of_refuses hrefuses hrefuses' (hexit.trans hexit'.symm)
  | ok c =>
      cases hc' : o.resolve env' config with
      | error failure =>
          rw [hc, hc'] at hresolve
          cases hresolve
      | ok c' =>
          rw [hc, hc'] at hresolve
          have hsame : c.atNormal = c'.atNormal := Except.ok.inj hresolve
          exact h.run_of_configs hc hc' hsame given given'

theorem reports_eq_nil (o : CheckOptions) (env : Environment) (given : Verbosity)
    (config : Option Path) (h : o.output.isSome = true ∨
      (o.run env given config).finish.2 = .configError ∨
      (o.run env given config).finish.2 = .runtimeError) :
    (o.run env given config).reports = [] := by
  obtain ⟨hrefuses, -⟩ | ⟨c, -, hdelivers, hexit⟩ := refuses_or_delivers o env given config
  · exact hrefuses.reports
  · obtain h | h | h := h
    · rw [hdelivers.reports, if_pos h]
    · exact absurd (hexit.symm.trans h) (exit_ne_of_verdict _).1
    · exact absurd (hexit.symm.trans h) (exit_ne_of_verdict _).2

end Pairs

/-- Two runs that differ in the verbosity alone, in the one given or in that of the configuration,
leave the same behind: the same report, but for its time, at the same place, and the same exit
code. On any console standard output holds the reports and nothing else, and there is none if the
report goes to a file or the run fails. -/
theorem verbosity_keeps_product (i : Invocation) (options : Option CheckOptions)
    (env : Environment) (given : Verbosity) :
    let o := options.getD {}
    let run (env : Environment) (given : Verbosity) :=
      Invocation.run { i with command := options.map .check } env given
    (∀ env' given', SameButVerbosity o i.config env env' →
      SameProduct env.now env'.now (run env given) (run env' given')) ∧
    ∀ console : Console,
      (console.output (run env given).finish.1).stdout = String.join (run env given).reports ∧
      (o.output.isSome = true ∨ (run env given).finish.2 = .configError ∨
          (run env given).finish.2 = .runtimeError →
        (console.output (run env given).finish.1).stdout = "") := by
  intro o run
  have hrun (env : Environment) (given : Verbosity) : run env given = o.run env given i.config := by
    cases options <;> rfl
  simp only [hrun]
  refine ⟨fun _ given' h => h.run given given', ?_⟩
  intro console
  refine ⟨console.stdout_output _, ?_⟩
  intro h
  rw [console.stdout_output]
  exact congrArg String.join (reports_eq_nil o env given i.config h)

/-- A project whose configuration file has the text, at a moment of the first day of 1970. -/
def projectWith (text : String) (second : Int) : Environment where
  surroundings :=
    { home := none
      files :=
        { kind := fun p => if p = Config.Sources.fileIn ⟨"/proj"⟩ "config.yml" then .ok .file
            else .error .notFound
          read := fun p => if p = Config.Sources.fileIn ⟨"/proj"⟩ "config.yml" then .ok text
            else .error .notFound
          names := fun _ => .ok []
          write := fun _ => .ok () } }
  root := ⟨"/proj"⟩
  host := fun _ => .panic none
  colors := false
  now := ⟨second, 0⟩

theorem silent_and_verbose_keep_product :
    let silent := projectWith "settings:\n  default_output: silent\n" 0
    let verbose := projectWith "settings:\n  default_output: verbose\n" 1
    let loaded (env : Environment) := Config.loadFor env.surroundings env.root none
    let run := Invocation.run { command := some (.check { format := some .json }) }
    loaded silent = .ok { settings := { defaultOutput := .silent } } ∧
      loaded verbose = .ok { settings := { defaultOutput := .verbose } } ∧
      SameButVerbosity { format := some .json } none silent verbose ∧
      SameProduct silent.now verbose.now (run silent .normal) (run verbose .quiet) := by
  intro silent verbose loaded run
  have hsilent : loaded silent = .ok { settings := { defaultOutput := .silent } } := by
    decide +kernel
  have hverbose : loaded verbose = .ok { settings := { defaultOutput := .verbose } } := by
    decide +kernel
  have hloaded : (loaded silent).map Config.atNormal = (loaded verbose).map Config.atNormal := by
    rw [hsilent, hverbose]
    rfl
  have hsame : SameButVerbosity { format := some .json } none silent verbose :=
    ⟨hloaded, rfl, rfl, rfl, rfl⟩
  exact ⟨hsilent, hverbose, hsame,
    (verbosity_keeps_product {} (some { format := some .json }) silent .normal).1 verbose .quiet
      hsame⟩

end Readiness
