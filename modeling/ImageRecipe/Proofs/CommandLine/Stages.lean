import ImageRecipe.CommandLine.Run
import ImageRecipe.Proofs.Results

/-!
# What a run comes to

All stages of a run but the last one only read, and tell what they do.  What they come to depends on
the scene and on the options, so it can be said without stages: what is told, and then either a
Dockerfile or a complaint.  Which option matters to which part can then be read off, and runs can be
compared.

* `Finding`, `Finds` : what a stage that reads comes to, in every world of a scene
* `Scene.document`, `Scene.variablesAt`, `Scene.collected`, `Scene.dockerfile` : what the stages
  come to
* `Scene.draft`, `Scene.prepared` : the Dockerfile before and after it is verified
* `FailsLoudly` : complaints have an exit code of their own
* `World.emitted`, `runIn_generate` : what the last stage makes of it
-/

namespace ImageRecipe.CommandLine

variable {F α β ε : Type} {verbosity : Nat}

/-! ## Findings -/

/-- What a stage that reads comes to: what it tells on the way, and its result. -/
structure Finding (α : Type) where
  told : List Event
  result : Except Complaint α

namespace Finding

/-- Nothing is told. -/
def of (r : Except Complaint α) : Finding α := ⟨[], r⟩

/-- Goes on with a result. -/
def bind (x : Finding α) (f : α → Finding β) : Finding β :=
  match x.result with
  | .ok a => ⟨x.told ++ (f a).told, (f a).result⟩
  | .error c => ⟨x.told, .error c⟩

theorem bind_of_ok (a : α) (f : α → Finding β) : (of (.ok a)).bind f = f a := rfl

theorem bind_of_result {x : Finding α} {a : α} (h : x.result = .ok a) (f : α → Finding β) :
    x.bind f = ⟨x.told ++ (f a).told, (f a).result⟩ := by
  rw [bind, h]

theorem bind_of_complaint {x : Finding α} {c : Complaint} (h : x.result = .error c)
    (f : α → Finding β) : x.bind f = ⟨x.told, .error c⟩ := by
  rw [bind, h]

theorem result_bind (x : Finding α) (f : α → Finding β) :
    (x.bind f).result = x.result.bind fun a => (f a).result := by
  unfold bind
  cases x.result <;> rfl

/-- What is done with a result matters only for a success. -/
theorem bind_congr {x : Finding α} {f g : α → Finding β} (h : ∀ a, x.result = .ok a → f a = g a) :
    x.bind f = x.bind g := by
  unfold bind
  cases hresult : x.result with
  | error c => rfl
  | ok a => simp only [h a hresult]

/-- The Dockerfile that a template makes of a document. -/
def rendered {E : Template.Engine} (o : Options) (renderer : Renderer E) (document : Document)
    (vars : Mapping Value) : Finding String :=
  if renderer.hasTemplate o.templateName then
    (⟨[.rendering o.templateName document.instructions.length], .ok ()⟩ : Finding Unit).bind
      fun _ => .of ((renderer.render o.templateName document vars).mapError .ofFailure)
  else .of ((renderer.render o.templateName document vars).mapError .ofFailure)

/-- A text that has been verified, if it is to be. -/
def verified (o : Options) (text : String) : Finding String :=
  if o.verify then
    match Dockerfile.verify text with
    | .error e => .of (.error (.ofFailure (.dockerfile e)))
    | .ok found => ⟨[.verified found.instructions.length found.stages], .ok text⟩
  else .of (.ok text)

section Verified

variable {o : Options} {text : String}

theorem verified_of_not (h : o.verify = false) : verified o text = .of (.ok text) := by
  rw [verified, if_neg (by rw [h]; exact Bool.false_ne_true)]

theorem verified_of_ok {found : Dockerfile.Verification} (h : o.verify = true)
    (hfound : Dockerfile.verify text = .ok found) :
    verified o text = ⟨[.verified found.instructions.length found.stages], .ok text⟩ := by
  rw [verified, if_pos h, hfound]

theorem verified_of_error {e : Dockerfile.DockerfileError} (h : o.verify = true)
    (herror : Dockerfile.verify text = .error e) :
    verified o text = .of (.error (.ofFailure (.dockerfile e))) := by
  rw [verified, if_pos h, herror]

end Verified

end Finding

/-! ## Worlds -/

namespace World

/-- The world after events were told. -/
def hear (w : World F) (verbosity : Nat) (events : List Event) : World F :=
  { w with stderr := w.stderr ++ String.join (events.map (w.scene.journal.text verbosity)) }

theorem hear_nil (w : World F) : w.hear verbosity [] = w := by
  unfold hear
  rw [List.map_nil, String.join_nil, String.append_empty]

theorem hear_append (w : World F) (before behind : List Event) :
    w.hear verbosity (before ++ behind) = (w.hear verbosity before).hear verbosity behind := by
  unfold hear
  rw [List.map_append, String.join_append, ← String.append_assoc]

theorem hear_singleton (w : World F) (event : Event) :
    w.hear verbosity [event] = w.tell verbosity event := by
  unfold hear tell
  rw [List.map_singleton, String.join_cons, String.join_nil, String.append_empty]

end World

/-! ## Stages that read -/

/-- How a stage ends, and the world after it. -/
def Stage.after (p : Stage (StateM (World F)) α) (w : World F) : Except Complaint α × World F :=
  p.run.run w

/-- The second stage goes on where the first one has ended well. -/
theorem Stage.after_bind (p : Stage (StateM (World F)) α) (f : α → Stage (StateM (World F)) β)
    (w : World F) : (p >>= f).after w =
      match p.after w with
      | (.ok a, w) => (f a).after w
      | (.error c, w) => (.error c, w) := by
  simp only [Stage.after, ExceptT.run_bind, StateT.run_bind]
  cases p.run.run w with
  | mk result w =>
      cases result with
      | ok a => rfl
      | error c => rfl

/-- In every world of the scene, the stage comes to the finding. -/
def Finds (verbosity : Nat) (scene : Scene F) (p : Stage (StateM (World F)) α)
    (x : Finding α) : Prop :=
  ∀ w : World F, w.scene = scene → p.after w = (x.result, w.hear verbosity x.told)

namespace Finds

variable {scene : Scene F} {p : Stage (StateM (World F)) α} {x : Finding α}

/-- A stage that neither tells anything nor changes the world. -/
theorem of_after {r : Except Complaint α}
    (h : ∀ w : World F, w.scene = scene → p.after w = (r, w)) :
    Finds verbosity scene p (.of r) := by
  intro w hw
  rw [h w hw, Finding.of, World.hear_nil]

theorem of_orComplain (complaint : ε → Complaint) (r : Except ε α) :
    Finds verbosity scene (orComplain complaint r) (.of (r.mapError complaint)) :=
  of_after fun _ _ => rfl

theorem of_tell [FileSystem F] (event : Event) :
    Finds verbosity scene (Surroundings.tell verbosity event) ⟨[event], .ok ()⟩ := by
  intro w _
  rw [World.hear_singleton]
  rfl

/-- What follows a stage that reads goes on with its result. -/
theorem after_bind (h : Finds verbosity scene p x) (f : α → Stage (StateM (World F)) β)
    {w : World F} (hw : w.scene = scene) :
    (p >>= f).after w =
      match x.result with
      | .ok a => (f a).after (w.hear verbosity x.told)
      | .error c => (.error c, w.hear verbosity x.told) := by
  rw [Stage.after_bind, h w hw]
  cases x.result <;> rfl

theorem bind {f : α → Stage (StateM (World F)) β} {g : α → Finding β}
    (h : Finds verbosity scene p x) (hf : ∀ a, Finds verbosity scene (f a) (g a)) :
    Finds verbosity scene (p >>= f) (x.bind g) := by
  intro w hw
  rw [h.after_bind f hw]
  unfold Finding.bind
  cases x.result with
  | error c => rfl
  | ok a =>
      dsimp only
      rw [World.hear_append]
      exact hf a _ hw

/-- What follows a stage that is silent and succeeds. -/
theorem bind_ok {a : α} {f : α → Stage (StateM (World F)) β} {y : Finding β}
    (h : Finds verbosity scene p (.of (.ok a))) (hf : Finds verbosity scene (f a) y) :
    Finds verbosity scene (p >>= f) y := by
  intro w hw
  rw [h.after_bind f hw, Finding.of, World.hear_nil]
  exact hf w hw

/-- Stages that are silent make a silent stage. -/
theorem bind_of {r : Except Complaint α} {f : α → Stage (StateM (World F)) β}
    {g : α → Except Complaint β} (h : Finds verbosity scene p (.of r))
    (hf : ∀ a, Finds verbosity scene (f a) (.of (g a))) :
    Finds verbosity scene (p >>= f) (.of (r.bind g)) := by
  cases r with
  | error c => exact h.bind hf
  | ok a => exact h.bind_ok (hf a)

end Finds

/-! ## What the stages come to -/

namespace Scene

variable [FileSystem F]

/-- The text of a file. -/
def textAt (scene : Scene F) (path : String) : Except Complaint String :=
  (FileSystem.read scene.files path).mapError fun e => .atPath path (.inputOutput e)

/-- The text of the document, which is on stdin or in a file. -/
def document (scene : Scene F) (o : Options) : Except Complaint String :=
  match o.stdin, o.document with
  | true, none => scene.stdin.mapError .ofInputOutput
  | false, some path => scene.textAt path
  | true, some _ => .error (.usage twoDocuments)
  | false, none => .error (.usage noDocument)

/-- The variables of a file, if one is named. -/
def variablesAt (scene : Scene F) : Option String → Except Complaint (Mapping Value)
  | none => .ok .empty
  | some path => (scene.textAt path).bind fun text =>
    (variablesOfText text).mapError fun e => .atPath path (.document e)

/-- The templates of search directories, behind those that were found before. -/
def collected (scene : Scene F) : List String → Mapping String → Finding (Mapping String)
  | [], found => .of (.ok found)
  | path :: rest, found =>
    match FileSystem.scan scene.files path with
    | none =>
      (⟨[.noDirectory path], .ok ()⟩ : Finding Unit).bind fun _ => scene.collected rest found
    | some directory =>
      (Finding.of ((Template.takeFiles found directory.entries).mapError .ofFailure)).bind
        (scene.collected rest)

/-- The Dockerfile for the text of a document: the document that the text renders to, rendered with
a template. -/
def dockerfile (scene : Scene F) (s : Supplies) (o : Options) (text : String)
    (templateVariables buildVariables : Mapping Value) : Finding String :=
  (Finding.of ((renderSource text templateVariables s.engine).mapError .ofFailure)).bind
    fun source =>
  (Finding.of ((Document.ofText source).mapError fun e => .ofFailure (.document e))).bind
    fun document =>
  (scene.collected o.searchPaths .empty).bind fun found =>
  (Finding.of ((Renderer.ofSources .builtin (Template.completed found) s.engine).mapError
    .ofFailure)).bind fun renderer =>
  Finding.rendered o renderer document (.merge [templateVariables, buildVariables])

/-- The Dockerfile that options ask for, before it is verified. -/
def draft (scene : Scene F) (s : Supplies) (o : Options) : Finding String :=
  (Finding.of (scene.document o)).bind fun text =>
  (Finding.of (scene.variablesAt o.templateVariables)).bind fun templateVariables =>
  (Finding.of (scene.variablesAt o.buildVariables)).bind fun buildVariables =>
  scene.dockerfile s o text templateVariables buildVariables

/-- The Dockerfile that options ask for. -/
def prepared (scene : Scene F) (s : Supplies) (o : Options) : Finding String :=
  (scene.draft s o).bind (Finding.verified o)

end Scene

section Reading

variable [FileSystem F] {scene : Scene F}

theorem finds_readFile (path : String) :
    Finds verbosity scene (readFile path) (.of (scene.textAt path)) :=
  .of_after fun w hw => by subst hw; rfl

theorem finds_document (o : Options) :
    Finds verbosity scene (validate o >>= fun _ => readDocument o) (.of (scene.document o)) := by
  refine .of_after fun w hw => ?_
  subst hw
  unfold validate readDocument Scene.document
  cases o.stdin <;> cases o.document <;> rfl

theorem finds_readVariables (path : Option String) :
    Finds verbosity scene (readVariables path) (.of (scene.variablesAt path)) := by
  cases path with
  | none => exact .of_after fun _ _ => rfl
  | some path => exact (finds_readFile path).bind_of fun text => .of_orComplain _ _

theorem finds_scan (path : String) :
    Finds verbosity scene (Surroundings.scan path)
      (.of (.ok (FileSystem.scan scene.files path))) :=
  .of_after fun w hw => by subst hw; rfl

/-- One directory after the other, in every world alike. -/
theorem finds_collect (paths : List String) (found : Mapping String) :
    Finds verbosity scene (collect verbosity paths found) (scene.collected paths found) := by
  induction paths generalizing found with
  | nil => exact .of_after fun _ _ => rfl
  | cons path rest ih =>
      refine (finds_scan path).bind_ok ?_
      rw [Scene.collected]
      cases FileSystem.scan scene.files path with
      | none => exact (Finds.of_tell _).bind fun _ => ih found
      | some directory => exact (Finds.of_orComplain _ _).bind ih

theorem finds_renderDocument {E : Template.Engine} (o : Options) (renderer : Renderer E)
    (document : Document) (vars : Mapping Value) :
    Finds o.verbosity scene (renderDocument o renderer document vars)
      (.rendered o renderer document vars) := by
  unfold renderDocument Finding.rendered
  by_cases hname : renderer.hasTemplate o.templateName = true
  · rw [if_pos hname, if_pos hname]
    exact (Finds.of_tell _).bind fun _ => .of_orComplain _ _
  · rw [if_neg hname, if_neg hname]
    exact Finds.of_orComplain _ _

theorem finds_verifyIf (o : Options) (text : String) :
    Finds o.verbosity scene (verifyIf o text >>= fun _ => pure text) (.verified o text) := by
  unfold verifyIf Finding.verified
  by_cases hverify : o.verify = true
  · rw [if_pos hverify, if_pos hverify]
    cases Dockerfile.verify text with
    | error e => exact .of_after fun _ _ => rfl
    | ok found =>
        intro w _
        rw [World.hear_singleton]
        rfl
  · rw [if_neg hverify, if_neg hverify]
    exact .of_after fun _ _ => rfl

theorem finds_draft (s : Supplies) (o : Options) :
    Finds o.verbosity scene (draft s o) (scene.draft s o) := by
  unfold draft Scene.draft Scene.dockerfile
  rw [← bind_assoc]
  refine (finds_document o).bind fun text => ?_
  refine (finds_readVariables _).bind fun templateVariables => ?_
  refine (finds_readVariables _).bind fun buildVariables => ?_
  refine (Finds.of_orComplain _ _).bind fun source => ?_
  refine (Finds.of_orComplain _ _).bind fun document => ?_
  refine (finds_collect _ _).bind fun found => ?_
  refine (Finds.of_orComplain _ _).bind fun renderer => ?_
  exact finds_renderDocument o renderer document _

theorem finds_prepare (s : Supplies) (o : Options) :
    Finds o.verbosity scene (prepare s o) (scene.prepared s o) :=
  (finds_draft s o).bind fun text => finds_verifyIf o text

end Reading

/-! ## Complaints -/

/-- A complaint that may be the result has an exit code of its own. -/
def FailsLoudly (x : Finding α) : Prop := ∀ c, x.result = .error c → c.code ≠ .success

theorem exitCode_ne_success (f : Failure) : f.exitCode ≠ .success := by
  cases f <;> nofun

namespace FailsLoudly

theorem of_ok (a : α) : FailsLoudly (.of (.ok a)) := nofun

theorem of_error {c : Complaint} (h : c.code ≠ .success) :
    FailsLoudly (.of (.error c) : Finding α) := by
  rintro _ ⟨⟩
  exact h

theorem of_mapError {complaint : ε → Complaint} (h : ∀ e, (complaint e).code ≠ .success)
    (r : Except ε α) : FailsLoudly (.of (r.mapError complaint)) := by
  cases r with
  | ok a => exact of_ok a
  | error e => exact of_error (h e)

theorem bind {x : Finding α} {f : α → Finding β} (hx : FailsLoudly x)
    (hf : ∀ a, FailsLoudly (f a)) : FailsLoudly (x.bind f) := by
  intro c hc
  rw [Finding.result_bind] at hc
  rcases Results.error_of_bind hc with hfirst | ⟨a, -, hsecond⟩
  · exact hx c hfirst
  · exact hf a c hsecond

theorem of_bind {r : Except Complaint α} {f : α → Except Complaint β}
    (hr : FailsLoudly (.of r)) (hf : ∀ a, FailsLoudly (.of (f a))) :
    FailsLoudly (.of (r.bind f)) := by
  cases r with
  | ok a => exact hf a
  | error c => exact of_error (hr c rfl)

theorem of_failure (r : Except Failure α) : FailsLoudly (.of (r.mapError .ofFailure)) :=
  of_mapError exitCode_ne_success r

end FailsLoudly

section Complaints

variable [FileSystem F] {scene : Scene F}

theorem failsLoudly_textAt (path : String) : FailsLoudly (.of (scene.textAt path)) :=
  .of_mapError (fun e => exitCode_ne_success (.inputOutput e)) _

theorem failsLoudly_document (o : Options) : FailsLoudly (.of (scene.document o)) := by
  unfold Scene.document
  split
  · exact .of_mapError (fun e => exitCode_ne_success (.inputOutput e)) _
  · exact failsLoudly_textAt _
  · exact .of_error nofun
  · exact .of_error nofun

theorem failsLoudly_variablesAt (path : Option String) :
    FailsLoudly (.of (scene.variablesAt path)) := by
  cases path with
  | none => exact .of_ok _
  | some path =>
      refine (failsLoudly_textAt path).of_bind fun text => ?_
      exact .of_mapError (fun e => exitCode_ne_success (.document e)) _

theorem failsLoudly_collected (paths : List String) (found : Mapping String) :
    FailsLoudly (scene.collected paths found) := by
  induction paths generalizing found with
  | nil => exact .of_ok found
  | cons path rest ih =>
      rw [Scene.collected]
      cases FileSystem.scan scene.files path with
      | none => exact FailsLoudly.bind nofun fun _ => ih found
      | some directory => exact (FailsLoudly.of_failure _).bind ih

theorem failsLoudly_rendered {E : Template.Engine} (o : Options) (renderer : Renderer E)
    (document : Document) (vars : Mapping Value) :
    FailsLoudly (.rendered o renderer document vars) := by
  unfold Finding.rendered
  split
  · exact FailsLoudly.bind nofun fun _ => .of_failure _
  · exact .of_failure _

theorem failsLoudly_verified (o : Options) (text : String) : FailsLoudly (.verified o text) := by
  unfold Finding.verified
  split
  · split
    · exact .of_error nofun
    · exact nofun
  · exact .of_ok text

/-- Whatever keeps a Dockerfile from being made is told by an exit code other than zero. -/
theorem failsLoudly_draft (s : Supplies) (o : Options) : FailsLoudly (scene.draft s o) := by
  refine (failsLoudly_document o).bind fun text => ?_
  refine (failsLoudly_variablesAt _).bind fun templateVariables => ?_
  refine (failsLoudly_variablesAt _).bind fun buildVariables => ?_
  refine (FailsLoudly.of_failure _).bind fun source => ?_
  have hdocument : FailsLoudly (.of ((Document.ofText source).mapError fun e =>
      .ofFailure (.document e))) := .of_mapError (fun e => exitCode_ne_success (.document e)) _
  refine hdocument.bind fun document => ?_
  refine (failsLoudly_collected _ _).bind fun found => ?_
  exact (FailsLoudly.of_failure _).bind fun renderer => failsLoudly_rendered o renderer _ _

theorem failsLoudly_prepared (s : Supplies) (o : Options) : FailsLoudly (scene.prepared s o) :=
  (failsLoudly_draft s o).bind (failsLoudly_verified o)

end Complaints

/-! ## Ends of runs -/

/-- The end of a run with a complaint. -/
def World.failed (w : World F) (c : Complaint) : Outcome F :=
  ⟨c.code, w.stdout, w.stderr ++ c.text, w.scene.files⟩

variable [FileSystem F]

/-- The end of a run with a Dockerfile, which is put at a path, or else written to stdout. -/
def World.emitted (w : World F) (o : Options) (text : String) : Outcome F :=
  match o.output with
  | none =>
    match w.print text with
    | (.ok (), after) => ⟨.success, after.stdout, after.stderr, after.scene.files⟩
    | (.error e, after) => after.failed (.ofInputOutput e)
  | some path =>
    match w.write path text with
    | (.ok (), after) =>
      ⟨.success, after.stdout, (after.tell o.verbosity (.wrote path)).stderr, after.scene.files⟩
    | (.error e, after) => after.failed (.atPath path (.inputOutput e))

namespace World

/-! The last stage ends in one of four ways. -/

variable {w : World F} {o : Options} {path text part : String} {after : F} {e : InputOutputError}

theorem emitted_taken (ho : o.output = none) (h : w.scene.refusal? w.stdout text = none) :
    w.emitted o text = ⟨.success, w.stdout ++ text, w.stderr, w.scene.files⟩ := by
  rw [emitted, ho]
  dsimp only
  rw [print, h]

theorem emitted_refused (ho : o.output = none)
    (h : w.scene.refusal? w.stdout text = some (part, e)) :
    w.emitted o text = ({ w with stdout := w.stdout ++ part } : World F).failed
      (.ofInputOutput e) := by
  rw [emitted, ho]
  dsimp only
  rw [print, h]

theorem emitted_written (ho : o.output = some path)
    (h : FileSystem.write w.scene.files path text = (.ok (), after)) :
    w.emitted o text =
      ⟨.success, w.stdout, w.stderr ++ w.scene.journal.text o.verbosity (.wrote path), after⟩ := by
  rw [emitted, ho]
  dsimp only
  rw [write, h]
  rfl

theorem emitted_unwritten (ho : o.output = some path)
    (h : FileSystem.write w.scene.files path text = (.error e, after)) :
    w.emitted o text = ({ w with scene := { w.scene with files := after } } : World F).failed
      (.atPath path (.inputOutput e)) := by
  rw [emitted, ho]
  dsimp only
  rw [write, h]

end World

/-- The end of a run that has come to a Dockerfile or to a complaint. -/
def World.ended (w : World F) (o : Options) (x : Finding String) : Outcome F :=
  match x.result with
  | .ok text => (w.hear o.verbosity x.told).emitted o text
  | .error c => (w.hear o.verbosity x.told).failed c

/-- The last stage emits what it is given. -/
theorem of_writeOutput (w : World F) (o : Options) (text : String) :
    Outcome.of ((writeOutput o text).after w).1 ((writeOutput o text).after w).2 =
      w.emitted o text := by
  unfold writeOutput World.emitted
  cases o.output with
  | none =>
      have hafter : (say .ofInputOutput text).after w =
          ((w.print text).1.mapError .ofInputOutput, (w.print text).2) := rfl
      dsimp only
      rw [hafter]
      cases hprint : w.print text with
      | mk result after => cases result <;> rfl
  | some path =>
      dsimp only
      rw [Stage.after_bind]
      have hwritten : (Surroundings.write path text : Stage (StateM (World F)) _).after w =
          (.ok (w.write path text).1, (w.write path text).2) := rfl
      rw [hwritten]
      cases hwrite : w.write path text with
      | mk result after => cases result <;> rfl

/-- A run that asks for a Dockerfile makes a draft, verifies it if it is to, and emits it. -/
theorem runIn_generate {arguments : List String} {o : Options}
    (h : Command.ofArguments arguments = .ok (.generate o)) (s : Supplies) (scene : Scene F) :
    runIn s arguments scene = (World.start scene).ended o (scene.prepared s o) := by
  have hrun : runIn s arguments scene =
      .of ((execute s arguments).after (.start scene)).1
        ((execute s arguments).after (.start scene)).2 := rfl
  have hexecute : execute s arguments =
      (generate s o : Stage (StateM (World F)) Unit) := by
    rw [execute, h]
  have hfinds : Finds o.verbosity scene (prepare s o) (scene.prepared s o) := finds_prepare s o
  rw [hrun, hexecute, generate, hfinds.after_bind _ rfl, World.ended]
  cases (scene.prepared s o).result with
  | error c => rfl
  | ok text => exact of_writeOutput _ o text

end ImageRecipe.CommandLine
