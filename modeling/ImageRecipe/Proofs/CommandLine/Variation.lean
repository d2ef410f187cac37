import ImageRecipe.Proofs.CommandLine.Files
import ImageRecipe.Proofs.CommandLine.Lines

/-!
# Runs that differ in one option

Each option matters to one part of a run.  Where the document comes from matters to its reading,
the output to the last stage, verification to nothing but whether there is a last stage, and the
variables of the build to the template, if it uses them.  So runs can be compared that differ in one
of these options.  Files, stdout and the template engine may be any; what a comparison needs to know
of them is named where it does.

* `Scene.draft_fromFile`, `Scene.draft_withBuildVariables` : drafts that are the same
* `Outcome.TellsAlso`, `World.tellsAlso_emitted` : ends of runs of which one tells more
* `runIn_fromFile`, `runIn_toFile`, `runIn_verifying`, `runIn_withBuildVariables` : each option on
  its own
* `run_variations` : all of them
-/

namespace ImageRecipe.CommandLine

open Template (Catalogue catalogue_of_sources defaultName gather provided? sources)

variable {F : Type} [FileSystem F]

/-! ## What others see to -/

/-- What is put at a path is read there. -/
def FileSystem.Stores (files : F) (path : String) : Prop :=
  ∀ text after, FileSystem.write files path text = (.ok (), after) →
    FileSystem.read after path = .ok text

/-- A file tree stores what is put at a path, unless it leads to the null device. -/
theorem stores_fileTree {files : FileTree} {path : String} (h : files.spot path ≠ .ok .null) :
    FileSystem.Stores files path := by
  intro text after hwrite
  exact (FileTree.read_of_write (fileSystem_write_eq_ok_iff.mp hwrite)).resolve_right h

/-- Stdout takes whatever is written to it. -/
def Scene.TakesAll (scene : Scene F) : Prop := ∀ written text, scene.refusal? written text = none

/-! ## Drafts -/

namespace Scene

variable {scene : Scene F} {s : Supplies} {o : Options}

/-- What is collected does not depend on stdin. -/
theorem collected_unread (scene : Scene F) (unread : Except InputOutputError String)
    (paths : List String) (found : Mapping String) :
    ({ scene with stdin := unread } : Scene F).collected paths found =
      scene.collected paths found := by
  induction paths generalizing found with
  | nil => rfl
  | cons path rest ih =>
      rw [collected, collected]
      cases FileSystem.scan scene.files path with
      | none => exact Finding.bind_congr fun _ _ => ih found
      | some directory => exact Finding.bind_congr fun taken _ => ih taken

/-- A document in a file leads to the same draft as on stdin. -/
theorem draft_fromFile {path text : String} (hstdin : o.stdin = true)
    (hdocument : o.document = none) (htext : scene.stdin = .ok text)
    (hread : FileSystem.read scene.files path = .ok text)
    (unread : Except InputOutputError String) :
    ({ scene with stdin := unread } : Scene F).draft s
        { o with stdin := false, document := some path } = scene.draft s o := by
  have hsame : scene.document o = .ok text := by
    simp only [document, hstdin, hdocument, htext, Except.mapError]
  have hfile : ({ scene with stdin := unread } : Scene F).document
      { o with stdin := false, document := some path } = .ok text := by
    show ({ scene with stdin := unread } : Scene F).textAt path = _
    rw [textAt, hread]
    rfl
  unfold draft dockerfile
  rw [hfile, hsame]
  simp only [collected_unread]
  rfl

/-- What is collected is what the search finds. -/
theorem result_collected (paths : List String) (found : Mapping String) :
    (scene.collected paths found).result =
      (gather found (paths.map (FileSystem.scan scene.files))).mapError .ofFailure := by
  induction paths generalizing found with
  | nil => rfl
  | cons path rest ih =>
      rw [collected, List.map_cons]
      cases FileSystem.scan scene.files path with
      | none =>
          rw [Finding.result_bind]
          exact ih found
      | some directory =>
          rw [Finding.result_bind, gather]
          cases Template.takeFiles found directory.entries with
          | error e => rfl
          | ok taken => exact ih taken

theorem catalogue_of_collected {paths : List String} {found : Mapping String}
    (h : (scene.collected paths .empty).result = .ok found) :
    Catalogue (paths.map (FileSystem.scan scene.files)) (Template.completed found) := by
  rw [result_collected] at h
  have hsources : sources (paths.map (FileSystem.scan scene.files)) =
      .ok (Template.completed found) := by
    rw [sources, Results.ok_of_mapError h]
    rfl
  exact (catalogue_of_sources hsources).2.2

/-- The built-in template does not use the variables of the build. -/
theorem dockerfile_buildVariables (hengine : Renderer.FollowsBuiltin s.engine)
    (htemplate : o.templateName = defaultName)
    (hnone : provided? (o.searchPaths.map (FileSystem.scan scene.files)) defaultName = none)
    (text : String) (templateVariables buildVariables : Mapping Value) :
    scene.dockerfile s o text templateVariables buildVariables =
      scene.dockerfile s o text templateVariables .empty := by
  unfold dockerfile
  refine Finding.bind_congr fun source _ => Finding.bind_congr fun document hdocument =>
    Finding.bind_congr fun found hfound => Finding.bind_congr fun renderer hrenderer => ?_
  have hcatalogue := catalogue_of_collected hfound
  have hdistinct := Document.distinct_of_ofText (Results.ok_of_mapError hdocument)
  obtain ⟨templates, hload, rfl⟩ :=
    Renderer.ofSources_eq_ok_iff.mp (Results.ok_of_mapError hrenderer)
  have hrender := fun vars => (hengine hcatalogue.nodup_names (hcatalogue.mem_builtin hnone) hload
    .builtin hdistinct vars).trans (Renderer.render_builtin .builtin hdistinct vars)
  unfold Finding.rendered
  rw [htemplate, hrender, hrender]

/-- Variables of the build that can be loaded change no draft of the built-in template. -/
theorem draft_withBuildVariables {path : String} {loaded : Mapping Value}
    (hbuild : o.buildVariables = none) (hload : scene.variablesAt (some path) = .ok loaded)
    (hengine : Renderer.FollowsBuiltin s.engine) (htemplate : o.templateName = defaultName)
    (hnone : provided? (o.searchPaths.map (FileSystem.scan scene.files)) defaultName = none) :
    scene.draft s { o with buildVariables := some path } = scene.draft s o := by
  have hnothing : scene.variablesAt o.buildVariables = .ok .empty := by rw [hbuild]; rfl
  unfold draft
  refine Finding.bind_congr fun text _ => Finding.bind_congr fun templateVariables _ => ?_
  rw [hload, hnothing, Finding.bind_of_ok, Finding.bind_of_ok]
  exact dockerfile_buildVariables hengine htemplate hnone text templateVariables loaded

end Scene

/-! ## Ends of runs -/

/-- An outcome that differs from another one only in that a line is told in some place. -/
def Outcome.TellsAlso (line : String) (outcome other : Outcome F) : Prop :=
  ∃ before behind, outcome.stderr = before ++ behind ∧
    other = { outcome with stderr := before ++ line ++ behind }

omit [FileSystem F] in
theorem Outcome.tellsAlso_empty_iff {outcome other : Outcome F} :
    Outcome.TellsAlso "" outcome other ↔ other = outcome := by
  constructor
  · rintro ⟨before, behind, hstderr, rfl⟩
    rw [String.append_empty, ← hstderr]
  · rintro rfl
    exact ⟨_, "", String.append_empty.symm, by rw [String.append_empty, String.append_empty]⟩

namespace World

variable {o : Options}

/-- What the last stage does depends neither on stdin nor on what was told before it, behind which
it tells what it has to. -/
theorem exists_emitted (w : World F) (o : Options) (text : String) :
    ∃ code stdout behind files, ∀ unread told,
      emitted ⟨{ w.scene with stdin := unread }, w.stdout, told⟩ o text =
        ⟨code, stdout, told ++ behind, files⟩ := by
  cases houtput : o.output with
  | none =>
      cases hrefusal : w.scene.refusal? w.stdout text with
      | none =>
          refine ⟨.success, w.stdout ++ text, "", w.scene.files, fun unread told => ?_⟩
          rw [String.append_empty]
          exact emitted_taken houtput hrefusal
      | some refusal =>
          obtain ⟨part, e⟩ := refusal
          let c := Complaint.ofInputOutput e
          refine ⟨c.code, w.stdout ++ part, c.text, w.scene.files, fun unread told => ?_⟩
          exact emitted_refused houtput hrefusal
  | some path =>
      cases hwrite : FileSystem.write w.scene.files path text with
      | mk result after =>
          cases result with
          | ok _ =>
              refine ⟨.success, w.stdout, w.scene.journal.text o.verbosity (.wrote path), after,
                fun unread told => ?_⟩
              exact emitted_written houtput hwrite
          | error e =>
              let c := Complaint.atPath path (.inputOutput e)
              refine ⟨c.code, w.stdout, c.text, after, fun unread told => ?_⟩
              exact emitted_unwritten houtput hwrite

theorem tellsAlso_emitted (w : World F) (o : Options) (event : Event) (text : String) :
    Outcome.TellsAlso (w.scene.journal.text o.verbosity event) (w.emitted o text)
      ((w.tell o.verbosity event).emitted o text) := by
  obtain ⟨code, stdout, behind, files, hemitted⟩ := w.exists_emitted o text
  have hself : w.emitted o text = _ := hemitted w.scene.stdin w.stderr
  have hmore : (w.tell o.verbosity event).emitted o text = _ := hemitted w.scene.stdin _
  rw [hself, hmore]
  exact ⟨w.stderr, behind, rfl, rfl⟩

/-- Once everything is prepared, stdin does not matter. -/
theorem ended_unread (scene : Scene F) (unread : Except InputOutputError String) (o : Options)
    (x : Finding String) :
    (start { scene with stdin := unread }).ended o x = (start scene).ended o x := by
  unfold ended
  cases x.result with
  | error c => rfl
  | ok text =>
      obtain ⟨code, stdout, behind, files, hemitted⟩ :=
        ((start scene).hear o.verbosity x.told).exists_emitted o text
      exact (hemitted unread _).trans (hemitted scene.stdin _).symm

end World

/-! ## Runs -/

section Runs

variable {arguments other : List String} {o : Options} {s : Supplies} {scene : Scene F}

theorem runIn_fromFile {path text : String} (h : Command.ofArguments arguments = .ok (.generate o))
    (hother : Command.ofArguments other =
      .ok (.generate { o with stdin := false, document := some path }))
    (hstdin : o.stdin = true) (hdocument : o.document = none)
    (htext : scene.stdin = .ok text) (hread : FileSystem.read scene.files path = .ok text)
    (unread : Except InputOutputError String) :
    runIn s other { scene with stdin := unread } = runIn s arguments scene := by
  have hprepared : ({ scene with stdin := unread } : Scene F).prepared s
      { o with stdin := false, document := some path } = scene.prepared s o := by
    rw [Scene.prepared, Scene.draft_fromFile hstdin hdocument htext hread unread]
    rfl
  rw [runIn_generate hother, runIn_generate h, hprepared]
  exact World.ended_unread scene unread o _

/-- A run that fails does so wherever its Dockerfile was to go; one that succeeds puts it there. -/
theorem runIn_toFile {path : String} (h : Command.ofArguments arguments = .ok (.generate o))
    (hother : Command.ofArguments other = .ok (.generate { o with output := some path }))
    (houtput : o.output = none) (hstdout : scene.TakesAll) :
    ((runIn s arguments scene).code ≠ .success →
      runIn s other scene = runIn s arguments scene) ∧
    ((runIn s arguments scene).code = .success → ∀ after,
      FileSystem.write scene.files path (runIn s arguments scene).stdout = (.ok (), after) →
      runIn s other scene = ⟨.success, "", (runIn s arguments scene).stderr ++
        scene.journal.text o.verbosity (.wrote path), after⟩) := by
  have hmoved : runIn s other scene =
      (World.start scene).ended { o with output := some path } (scene.prepared s o) :=
    runIn_generate hother s scene
  rw [runIn_generate h, hmoved, World.ended, World.ended]
  cases hresult : (scene.prepared s o).result with
  | error c => exact ⟨fun _ => rfl, fun hcode => absurd hcode (failsLoudly_prepared s o c hresult)⟩
  | ok text =>
      dsimp only
      rw [World.emitted_taken houtput (hstdout _ _)]
      refine ⟨fun hcode => absurd rfl hcode, fun _ after hwrite => ?_⟩
      have htext : ((World.start scene).hear o.verbosity (scene.prepared s o).told).stdout ++ text =
          text := String.empty_append
      rw [htext] at hwrite
      exact World.emitted_written rfl hwrite

/-- Verification lets a run go on as it would without, and tells of it, or ends it before anything
is emitted. -/
theorem runIn_verifying (h : Command.ofArguments arguments = .ok (.generate o))
    (hother : Command.ofArguments other = .ok (.generate { o with verify := true }))
    (hverify : o.verify = false) (s : Supplies) (scene : Scene F) :
    ((runIn s arguments scene).code ≠ .success ∧
      runIn s other scene = runIn s arguments scene) ∨
    ∃ told text,
      runIn s arguments scene = ((World.start scene).hear o.verbosity told).emitted o text ∧
      ((∃ found, Dockerfile.verify text = .ok found ∧
        Outcome.TellsAlso
          (scene.journal.text o.verbosity (.verified found.instructions.length found.stages))
          (runIn s arguments scene) (runIn s other scene)) ∨
      ∃ e, Dockerfile.verify text = .error e ∧ runIn s other scene =
        ((World.start scene).hear o.verbosity told).failed (.ofFailure (.dockerfile e))) := by
  have hplain : runIn s arguments scene = (World.start scene).ended o
      ((scene.draft s o).bind (.verified o)) := runIn_generate h s scene
  have hverified : runIn s other scene = (World.start scene).ended o
      ((scene.draft s o).bind (.verified { o with verify := true })) :=
    runIn_generate hother s scene
  rw [hplain, hverified]
  cases hresult : (scene.draft s o).result with
  | error c =>
      left
      rw [Finding.bind_of_complaint hresult, Finding.bind_of_complaint hresult]
      exact ⟨failsLoudly_draft s o c hresult, rfl⟩
  | ok text =>
      rw [Finding.bind_of_result hresult, Finding.bind_of_result hresult,
        Finding.verified_of_not hverify, Finding.of, List.append_nil]
      refine .inr ⟨(scene.draft s o).told, text, rfl, ?_⟩
      cases hdockerfile : Dockerfile.verify text with
      | ok found =>
          refine .inl ⟨found, rfl, ?_⟩
          rw [Finding.verified_of_ok rfl hdockerfile]
          dsimp only [World.ended]
          rw [World.hear_append, World.hear_singleton]
          exact World.tellsAlso_emitted _ o _ text
      | error e =>
          refine .inr ⟨e, rfl, ?_⟩
          rw [Finding.verified_of_error rfl hdockerfile, Finding.of, List.append_nil]
          rfl

/-- Without `-v` and without a filter, nothing is told of a verification that succeeds. -/
theorem runIn_verifying_quiet (h : Command.ofArguments arguments = .ok (.generate o))
    (hother : Command.ofArguments other = .ok (.generate { o with verify := true }))
    (hverify : o.verify = false) (hverbosity : o.verbosity = 0)
    (hfilter : scene.journal.filter? = none) :
    runIn s other scene = runIn s arguments scene ∨
    ∃ (w : World F) (text : String) (e : Dockerfile.DockerfileError),
      Dockerfile.verify text = .error e ∧
      runIn s arguments scene = w.emitted o text ∧
      runIn s other scene = w.failed (.ofFailure (.dockerfile e)) := by
  have hquiet : ∀ instructions stages,
      scene.journal.text o.verbosity (.verified instructions stages) = "" := by
    intro instructions stages
    rw [Journal.text, Journal.admits, hfilter, hverbosity]
    rfl
  rcases runIn_verifying h hother hverify s scene with
    ⟨-, hsame⟩ | ⟨told, text, hemitted, ⟨found, -, htells⟩ | ⟨e, herror, hfailed⟩⟩
  · exact .inl hsame
  · rw [hquiet, Outcome.tellsAlso_empty_iff] at htells
    exact .inl htells
  · exact .inr ⟨_, text, e, herror, hemitted, hfailed⟩

theorem runIn_withBuildVariables {path text : String} {loaded : Mapping Value}
    (h : Command.ofArguments arguments = .ok (.generate o))
    (hother : Command.ofArguments other = .ok (.generate { o with buildVariables := some path }))
    (hbuild : o.buildVariables = none) (hread : FileSystem.read scene.files path = .ok text)
    (hload : variablesOfText text = .ok loaded) (hengine : Renderer.FollowsBuiltin s.engine)
    (htemplate : o.templateName = defaultName)
    (hnone : provided? (o.searchPaths.map (FileSystem.scan scene.files)) defaultName = none) :
    runIn s other scene = runIn s arguments scene := by
  have hvariables : scene.variablesAt (some path) = .ok loaded := by
    rw [Scene.variablesAt, Scene.textAt, hread]
    simp only [Except.mapError, Except.bind, hload]
  have hprepared : scene.prepared s { o with buildVariables := some path } =
      scene.prepared s o := by
    rw [Scene.prepared, Scene.draft_withBuildVariables hbuild hvariables hengine htemplate hnone]
    rfl
  rw [runIn_generate hother, runIn_generate h, hprepared]
  rfl

/-- Of a run that asks for a Dockerfile, compared with one whose options are the same but for one:

* reading the document from a file that holds what stdin held changes nothing;
* asking for the Dockerfile at a path, where stdout takes all, leaves a failing run as it is, and of
  a successful one it moves the text from stdout to the path, if that can be written, and tells of
  it;
* asking for verification changes nothing but that it is told of, or it ends the run with exit code
  five and without a trace, where it would else have gone on to emit a text that is no Dockerfile;
* variables of the build that can be loaded change nothing where the built-in template is used. -/
theorem run_variations (h : Command.ofArguments arguments = .ok (.generate o)) (s : Supplies)
    (scene : Scene F) (other : List String) :
    (∀ path text, o.stdin = true → o.document = none →
      Command.ofArguments other =
        .ok (.generate { o with stdin := false, document := some path }) →
      scene.stdin = .ok text → FileSystem.read scene.files path = .ok text →
      ∀ unread, runIn s other { scene with stdin := unread } = runIn s arguments scene) ∧
    (∀ path, o.output = none →
      Command.ofArguments other = .ok (.generate { o with output := some path }) →
      scene.TakesAll →
      ((runIn s arguments scene).code ≠ .success →
        runIn s other scene = runIn s arguments scene) ∧
      ((runIn s arguments scene).code = .success → ∀ after,
        FileSystem.write scene.files path (runIn s arguments scene).stdout = (.ok (), after) →
        runIn s other scene = ⟨.success, "", (runIn s arguments scene).stderr ++
          scene.journal.text o.verbosity (.wrote path), after⟩ ∧
        (FileSystem.Stores scene.files path →
          FileSystem.read after path = .ok (runIn s arguments scene).stdout))) ∧
    (o.verify = false →
      Command.ofArguments other = .ok (.generate { o with verify := true }) →
      ((runIn s arguments scene).code ≠ .success ∧
        runIn s other scene = runIn s arguments scene) ∨
      ∃ told text,
        runIn s arguments scene = ((World.start scene).hear o.verbosity told).emitted o text ∧
        ((∃ found, Dockerfile.verify text = .ok found ∧
          Outcome.TellsAlso
            (scene.journal.text o.verbosity (.verified found.instructions.length found.stages))
            (runIn s arguments scene) (runIn s other scene)) ∨
        ∃ e, Dockerfile.verify text = .error e ∧
          (runIn s other scene).code.toNat = 5 ∧ (runIn s other scene).stdout = "" ∧
          (runIn s other scene).files = scene.files)) ∧
    (∀ path text loaded, o.buildVariables = none →
      Command.ofArguments other = .ok (.generate { o with buildVariables := some path }) →
      FileSystem.read scene.files path = .ok text → variablesOfText text = .ok loaded →
      o.templateName = defaultName →
      provided? (o.searchPaths.map (FileSystem.scan scene.files)) defaultName = none →
      Renderer.FollowsBuiltin s.engine →
      runIn s other scene = runIn s arguments scene) := by
  refine ⟨?_, ?_, ?_, ?_⟩
  · intro path text hstdin hdocument hother htext hread unread
    exact runIn_fromFile h hother hstdin hdocument htext hread unread
  · intro path houtput hother hstdout
    obtain ⟨hfailing, hmoved⟩ := runIn_toFile h hother houtput hstdout
    exact ⟨hfailing, fun hcode after hwrite =>
      ⟨hmoved hcode after hwrite, fun hstores => hstores _ _ hwrite⟩⟩
  · intro hverify hother
    refine (runIn_verifying h hother hverify s scene).imp_right ?_
    rintro ⟨told, text, hemitted, hverified⟩
    refine ⟨told, text, hemitted, hverified.imp_right ?_⟩
    rintro ⟨e, herror, hfailed⟩
    rw [hfailed]
    exact ⟨e, herror, rfl, rfl, rfl⟩
  · intro path text loaded hbuild hother hread hload htemplate hnone hengine
    exact runIn_withBuildVariables h hother hbuild hread hload hengine htemplate hnone

end Runs

/-! ## One document -/

/-- A document with one instruction, and variables that are not used. -/
def userFiles : FileTree :=
  (FileTree.empty.putFile ["v"] (some "x: 1\n")).putFile ["d"] (some "- USER: app\n")

/-- The document on stdin beside the files, and a journal that has a line for each event. -/
def userScene : Scene FileTree where
  stdin := .ok "- USER: app\n"
  files := userFiles
  journal := ⟨none, fun e => e.text ++ "\n"⟩

theorem read_userFiles :
    userFiles.read "d" = .ok "- USER: app\n" ∧ userFiles.read "v" = .ok "x: 1\n" := by
  have hdocument : userFiles.spot "d" = .ok (.file ["tmp", "work", "d"] false) :=
    (userFiles.spot_character (c := 'd') (by decide)).trans (by decide)
  have hvariables : userFiles.spot "v" = .ok (.file ["tmp", "work", "v"] false) :=
    (userFiles.spot_character (c := 'v') (by decide)).trans (by decide)
  constructor
  · rw [FileTree.read, hdocument]
    rfl
  · rw [FileTree.read, hvariables]
    rfl

theorem spot_userFiles : userFiles.spot "o" = .ok (.free ["tmp", "work", "o"] false) :=
  (userFiles.spot_character (c := 'o') (by decide)).trans (by decide)

theorem write_userFiles (text : String) :
    FileSystem.write userFiles "o" text = (.ok (), userFiles.putFile ["o"] (some text)) := by
  rw [fileSystem_write_eq_ok_iff, FileTree.write, spot_userFiles]
  rfl

theorem ofArguments_told : Command.ofArguments ["--stdin", "-v"] =
    .ok (.generate { stdin := true, verbosity := 1 }) := by
  decide

theorem ofArguments_toldAtPath : Command.ofArguments ["--stdin", "-v", "-o", "o"] =
    .ok (.generate { stdin := true, output := some "o", verbosity := 1 }) := by
  decide

/-- Its run, whether it is verified or not, whatever is told of it. -/
theorem runIn_userDocument {arguments : List String} {output : Option String} {verbosity : Nat}
    (h : Command.ofArguments arguments =
      .ok (.generate { stdin := true, output, verbosity }))
    (scene : Scene FileTree) (htext : scene.stdin = .ok "- USER: app\n") :
    ∃ told, runIn .standard arguments scene =
      ((World.start scene).hear verbosity told).emitted { stdin := true, output, verbosity }
        "USER app\n" := by
  have hresult : (scene.prepared .standard { stdin := true, output, verbosity }).result =
      .ok "USER app\n" := by
    rw [Scene.result_prepared rfl]
    exact Scene.draft_of_lines htext unmarked_userDocument output false verbosity lines_userDocument
  refine ⟨(scene.prepared .standard { stdin := true, output, verbosity }).told, ?_⟩
  rw [runIn_generate h, World.ended, hresult]

theorem exists_verify_userLine :
    ∃ found, Dockerfile.verify "USER app\n" = .ok found ∧ found.instructions.length = 1 ∧
      found.stages = 0 := by
  have hnumbers : (Dockerfile.verify "USER app\n").toOption.map
      (fun found => (found.instructions.length, found.stages)) = some (1, 0) := by
    decide +kernel
  cases hfound : Dockerfile.verify "USER app\n" with
  | error e =>
      rw [hfound] at hnumbers
      cases hnumbers
  | ok found =>
      rw [hfound] at hnumbers
      obtain ⟨hinstructions, hstages⟩ := Prod.mk.inj (Option.some.inj hnumbers)
      exact ⟨found, rfl, hinstructions, hstages⟩

theorem exists_variables_userFiles : ∃ loaded, variablesOfText "x: 1\n" = .ok loaded := by
  have hload : (variablesOfText "x: 1\n").toOption.isSome = true := by decide +kernel
  cases hloaded : variablesOfText "x: 1\n" with
  | error e =>
      rw [hloaded] at hload
      cases hload
  | ok loaded => exact ⟨loaded, rfl⟩

/-- The document read in two ways, its line written in two ways, verified, and with variables. -/
theorem run_variations_userFiles :
    (runIn .standard ["--stdin", "-v"] userScene).stdout = "USER app\n" ∧
      runIn .standard ["d", "-v"] { userScene with stdin := .error .notText } =
        runIn .standard ["--stdin", "-v"] userScene ∧
      (∃ after, runIn .standard ["--stdin", "-v", "-o", "o"] userScene =
        ⟨.success, "", (runIn .standard ["--stdin", "-v"] userScene).stderr ++
          "wrote dockerfile path=o\n", after⟩ ∧ after.read "o" = .ok "USER app\n") ∧
      Outcome.TellsAlso "generated dockerfile verified instructions=1 stages=0\n"
        (runIn .standard ["--stdin", "-v"] userScene)
        (runIn .standard ["--stdin", "-v", "--verify"] userScene) ∧
      runIn .standard ["--stdin", "-v", "-b", "v"] userScene =
        runIn .standard ["--stdin", "-v"] userScene := by
  have hfile : Command.ofArguments ["d", "-v"] =
      .ok (.generate { stdin := false, document := some "d", verbosity := 1 }) := by
    decide
  have hverify : Command.ofArguments ["--stdin", "-v", "--verify"] =
      .ok (.generate { stdin := true, verify := true, verbosity := 1 }) := by
    decide
  have hbuild : Command.ofArguments ["--stdin", "-v", "-b", "v"] =
      .ok (.generate { stdin := true, buildVariables := some "v", verbosity := 1 }) := by
    decide
  have hvariations := run_variations ofArguments_told .standard userScene
  obtain ⟨told, hrun⟩ := runIn_userDocument ofArguments_told userScene rfl
  rw [World.emitted_taken rfl rfl] at hrun
  have hstdout : (runIn .standard ["--stdin", "-v"] userScene).stdout = "USER app\n" := by
    rw [hrun]
    rfl
  have hcode : (runIn .standard ["--stdin", "-v"] userScene).code = .success := by rw [hrun]
  refine ⟨hstdout, ?_, ?_, ?_, ?_⟩
  · exact (hvariations ["d", "-v"]).1 "d" _ rfl rfl hfile rfl read_userFiles.1 _
  · have hmoved := ((hvariations ["--stdin", "-v", "-o", "o"]).2.1 "o" rfl ofArguments_toldAtPath
      fun _ _ => rfl).2
    have hwrite := write_userFiles (runIn .standard ["--stdin", "-v"] userScene).stdout
    obtain ⟨hother, hread⟩ := hmoved hcode _ hwrite
    have hstores : FileSystem.Stores userFiles "o" := stores_fileTree <| by
      rw [spot_userFiles]
      nofun
    exact ⟨_, hother, (hread hstores).trans (congrArg _ hstdout)⟩
  · obtain ⟨found, hfound, hinstructions, hstages⟩ := exists_verify_userLine
    rcases (hvariations ["--stdin", "-v", "--verify"]).2.2.1 rfl hverify with
      ⟨hfailed, -⟩ | ⟨told', text, hemitted, hverified⟩
    · exact absurd hcode hfailed
    · rw [World.emitted_taken rfl rfl] at hemitted
      have htext : text = "USER app\n" := by
        rw [hemitted] at hstdout
        exact String.empty_append.symm.trans hstdout
      subst htext
      rcases hverified with ⟨found', hfound', htells⟩ | ⟨e, herror, -⟩
      · cases hfound.symm.trans hfound'
        rw [hinstructions, hstages] at htells
        exact htells
      · cases hfound.symm.trans herror
  · obtain ⟨loaded, hloaded⟩ := exists_variables_userFiles
    exact (hvariations ["--stdin", "-v", "-b", "v"]).2.2.2 "v" _ loaded rfl hbuild
      read_userFiles.2 hloaded rfl rfl Renderer.followsBuiltin_modelled

/-- A document whose line is no Dockerfile, to be put where there is a directory. -/
theorem draft_refusedDocument (verify : Bool) :
    ((Scene.plain FileTree.empty (some "- FROM: a@b\n")).draft .standard
      { stdin := true, output := some ".", verify }).result = .ok "FROM a@b\n" := by
  have hlines : ((Document.ofText "- FROM: a@b\n").toOption.bind fun d =>
      (d.finite.lines .builtin).toOption) = some ["FROM a@b"] := by
    decide +kernel
  exact Scene.draft_of_lines rfl (by decide +kernel) (some ".") verify 0 hlines

theorem run_refusedDocument {arguments : List String} (h : Command.ofArguments arguments =
      .ok (.generate { stdin := true, output := some "." })) :
    (run arguments .empty (some "- FROM: a@b\n")).code = .inputOutput := by
  have hspot : FileTree.empty.spot "." = .ok (.directory ["tmp", "work"]) :=
    (FileTree.empty.spot_character (c := '.') (by decide)).trans (by decide)
  have hwrite : FileSystem.write FileTree.empty "." "FROM a@b\n" =
      (.error .isDirectory, FileTree.empty) := by
    rw [fileSystem_write_eq_error_iff, FileTree.write, hspot]
    exact ⟨rfl, rfl⟩
  rw [run, runIn_generate h, World.ended, Scene.result_prepared rfl, draft_refusedDocument false]
  exact congrArg Outcome.code (World.emitted_unwritten rfl hwrite)

theorem run_refusedDocument_verified {arguments : List String} (h : Command.ofArguments arguments =
      .ok (.generate { stdin := true, output := some ".", verify := true })) :
    (run arguments .empty (some "- FROM: a@b\n")).code = .dockerfile := by
  have hrefused : (Dockerfile.verify "FROM a@b\n").toOption.isSome = false := by decide +kernel
  rw [run, runIn_generate h, World.ended, Scene.prepared, Finding.result_bind,
    draft_refusedDocument true]
  cases hresult : Dockerfile.verify "FROM a@b\n" with
  | ok found =>
      rw [hresult] at hrefused
      cases hrefused
  | error e =>
      dsimp only [Except.bind]
      rw [Finding.verified_of_error rfl hresult]
      rfl

/-- Where stdout refuses everything, a path need not. -/
def brokenScene : Scene FileTree :=
  { userScene with refusal? := fun _ _ => some ("", .other "Broken pipe") }

/-- Options of one part may matter to others all the same.  Verification comes before writing: where
the text is no Dockerfile and the path cannot be written, it changes one failure into another.  A
path that is written to is told of, if events are.  And a path can be written to where stdout refuses
the text. -/
theorem variations_with_effect :
    (¬ ∀ (arguments other : List String) (o : Options) (files : FileTree) (stdin : Option String),
      Command.ofArguments arguments = .ok (.generate o) → o.verify = false →
      Command.ofArguments other = .ok (.generate { o with verify := true }) →
      run other files stdin = run arguments files stdin ∨
        (run arguments files stdin).code = .success ∧ (run other files stdin).code.toNat = 5 ∧
          (run other files stdin).stdout = "" ∧ (run other files stdin).files = files) ∧
    ((runIn .standard ["--stdin", "-v"] userScene).code = .success ∧
      (runIn .standard ["--stdin", "-v", "-o", "o"] userScene).code = .success ∧
      (runIn .standard ["--stdin", "-v", "-o", "o"] userScene).stderr ≠
        (runIn .standard ["--stdin", "-v"] userScene).stderr) ∧
    (runIn .standard ["--stdin", "-v"] brokenScene).code = .inputOutput ∧
      (runIn .standard ["--stdin", "-v", "-o", "o"] brokenScene).code = .success := by
  refine ⟨?verification, ?path, ?stdout⟩
  case path =>
      have htakes : userScene.TakesAll := fun _ _ => rfl
      have hmoved := (runIn_toFile (s := .standard) ofArguments_told ofArguments_toldAtPath rfl
        htakes).2
      obtain ⟨told, hrun⟩ := runIn_userDocument ofArguments_told userScene rfl
      rw [World.emitted_taken rfl rfl] at hrun
      have hcode : (runIn .standard ["--stdin", "-v"] userScene).code = .success := by rw [hrun]
      have hother := hmoved hcode _ (write_userFiles _)
      refine ⟨hcode, congrArg Outcome.code hother, fun hstderr => ?_⟩
      have hlength := congrArg String.length ((congrArg Outcome.stderr hother).symm.trans hstderr)
      rw [String.length_append] at hlength
      have hline : (userScene.journal.text 1 (.wrote "o")).length = 24 := by decide
      dsimp only at hlength
      omega
  case stdout =>
      obtain ⟨told, hrun⟩ := runIn_userDocument ofArguments_told brokenScene rfl
      obtain ⟨told', hmoved⟩ := runIn_userDocument ofArguments_toldAtPath brokenScene rfl
      rw [World.emitted_refused rfl rfl] at hrun
      rw [World.emitted_written rfl (write_userFiles _)] at hmoved
      exact ⟨congrArg Outcome.code hrun, congrArg Outcome.code hmoved⟩
  case verification =>
      intro hclaim
      have hplainCommand : Command.ofArguments ["--stdin", "-o", "."] =
          .ok (.generate { stdin := true, output := some "." }) := by
        decide
      have hverifying : Command.ofArguments ["--stdin", "--verify", "-o", "."] =
          .ok (.generate { stdin := true, output := some ".", verify := true }) := by
        decide
      have hplain := run_refusedDocument hplainCommand
      have hverified := run_refusedDocument_verified hverifying
      rcases hclaim _ _ _ .empty (some "- FROM: a@b\n") hplainCommand rfl hverifying with
        hsame | ⟨hok, -⟩
      · rw [hsame, hplain] at hverified
        cases hverified
      · rw [hplain] at hok
        cases hok

end ImageRecipe.CommandLine
