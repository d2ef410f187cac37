import ImageRecipe.Instruction.Builtin
import ImageRecipe.Proofs.Template.Engine
import ImageRecipe.Proofs.Template.Rendering
import ImageRecipe.Proofs.Value.Json
import ImageRecipe.Renderer

/-!
# The built-in template writes the lines of a document

There are two ways from a document to lines: to convert its instructions, and to render the
built-in template.  The second way leads through JSON trees, names, calls and a loop, and a failure
comes back from behind faults; yet both ways end alike.

* `Renderer.lineText` : what a round of the template writes, and `lineText_toJson`, its line
* `Renderer.mapM_lineText` : from rounds to documents
* `Renderer.render_eq_lines` : the two ways
-/

namespace ImageRecipe

open Template

/-- The instructions of a document stand under their name, whatever stands beside them. -/
theorem Document.get?_context (d : Document) (vars : Mapping Value) :
    (d.context vars).get? instructionsKey =
      some (.array (Value.itemsToJson d.instructions)) := by
  unfold context
  rw [Mapping.get?_insert, if_neg (by decide), Mapping.get?_insert, if_pos rfl]

namespace Renderer

/-! ## One round -/

/-- What the built-in template writes for the JSON tree of an instruction object. -/
def lineText (c : Converter) (j : Json) : Except Fault String :=
  match instructionLine c (Mapping.empty.insert lineArgument j) with
  | .ok line => .ok (line.printed ++ "\n")
  | .error fault => .error (.inFunction lineFunction fault)

/-- It is the line of the object, with null in place of what is not a number. -/
theorem lineText_toJson (c : Converter) {v : Value} (hv : v.Distinct) :
    lineText c v.toJson =
      match c.convert v.finite with
      | .ok line => .ok (line ++ "\n")
      | .error e => .error (.inFunction lineFunction (.instruction e)) := by
  have hargument : (Mapping.empty.insert lineArgument v.toJson).get? lineArgument =
      some v.toJson := by
    rw [Mapping.get?_insert, if_pos rfl]
  unfold lineText instructionLine
  simp only [hargument, Value.ofJson_toJson v hv]
  cases c.convert v.finite <;> rfl

/-- The loop of the built-in template goes through the instructions. -/
def instructionLoop : Heading where
  key := none
  value := lineArgument
  container := .ofAtom (.path ⟨Document.instructionsKey⟩)

/-- Its body calls for the line of the object that is met. -/
def loopBody : List Node :=
  [.output (.ofAtom (.call lineFunction [(lineArgument, .ofAtom (.path ⟨lineArgument⟩))])),
   .text "\n"]

theorem nodes_eachInstruction : eachInstruction.nodes = [.loop instructionLoop loopBody []] := rfl

theorem name_eachInstruction : eachInstruction.name = defaultName := rfl

/-- In each round the body writes the line of the object that the round meets. -/
theorem writesRounds_loopBody (c : Converter) (library : Library) (vars : Mapping Json)
    (jump : List Node → Run → Outcome) :
    WritesRounds instructionLoop (runNodes ⟨library, withCommon (functions c), vars⟩ jump loopBody)
      (lineText c) := by
  intro r round hkey hvalue
  have hname : IsName round.valueName := hvalue ▸ ⟨by decide, by decide⟩
  -- the argument is evaluated in the round, which hides a variable of the same name
  let stage : Stage := ⟨library, withCommon (functions c), vars⟩
  have hobject : ((r.enterRound round).setting stage).scope.lookUp ⟨lineArgument⟩ =
      .ok round.value := by
    have hlookUp := Scope.lookUp_valueName r.template r.frames vars hname hkey
    rw [hvalue] at hlookUp
    exact hlookUp
  have hcall : ∀ j, ((r.enterRound round).setting stage).call lineFunction
      (.ok (Mapping.empty.insert lineArgument j)) =
        (instructionLine c (Mapping.empty.insert lineArgument j)).mapError
          (.inFunction lineFunction) := fun _ => rfl
  rw [loopBody, runNodes, runNode, Expression.value_call, Expression.value_path, hobject,
    Except.map, hcall]
  unfold lineText
  cases instructionLine c (Mapping.empty.insert lineArgument round.value) with
  | error fault => rfl
  | ok line =>
      -- the line break is a node of its own behind the call
      show Run.proceed (((r.enterRound round).write line.printed).write "\n") = _
      rw [Run.write_write]

/-! ## All rounds -/

/-- The rounds write the lines of the document, up to the first object that has none. -/
theorem mapM_lineText (c : Converter) {items : List Value} (h : Value.DistinctItems items) :
    (Value.itemsToJson items).mapM (lineText c) =
      match c.convertAll (Value.finiteItems items) with
      | .ok lines => .ok (lines.map (· ++ "\n"))
      | .error e => .error (.inFunction lineFunction (.instruction e)) := by
  induction items with
  | nil => rfl
  | cons item rest ih =>
      rw [Value.itemsToJson, List.mapM_cons, lineText_toJson c h.1, ih h.2, Value.finiteItems,
        Converter.convertAll]
      cases c.convert item.finite with
      | error e => rfl
      | ok line => cases c.convertAll (Value.finiteItems rest) <;> rfl

/-- The rounds of the loop, outside of which nothing has been set. -/
theorem rounds_instructionLoop {stage : Stage} {d : Document} {vars : Mapping Value}
    (hvars : stage.vars = d.context vars) (template : String) (written : String) :
    instructionLoop.rounds ((⟨[⟨template, .empty, none⟩], written, none⟩ : Run).setting stage) =
      .ok ((Value.itemsToJson d.instructions).map fun item => ("", item)) := by
  have hname : IsName Document.instructionsKey := ⟨by decide, by decide⟩
  have hitems : instructionLoop.container.value
      ((⟨[⟨template, .empty, none⟩], written, none⟩ : Run).setting stage) =
        .ok (.array (Value.itemsToJson d.instructions)) := by
    rw [instructionLoop, Expression.value_path]
    exact Scope.lookUp_variable hname (hvars ▸ d.get?_context vars)
  unfold Heading.rounds
  rw [hitems]
  rfl

/-- The text of the built-in template, rendered on its own. -/
theorem render_eachInstruction (c : Converter) (library : Library) {d : Document}
    (hd : d.Distinct) (vars : Mapping Value) :
    (((⟨eachInstruction, []⟩ : Member).render ⟨library, withCommon (functions c), d.context vars⟩)
        |>.mapError RenderError.ofProblem).mapError Failure.ofRendering =
      match d.finite.lines c with
      | .ok lines => .ok (String.join (lines.map (· ++ "\n")))
      | .error e => .error (.instruction e) := by
  have hloop := runNode_loop (rounds_instructionLoop rfl defaultName "")
    (writesRounds_loopBody c library (d.context vars)
      (runUpTo ⟨library, withCommon (functions c), d.context vars⟩ 999))
  rw [mapM_lineText c hd] at hloop
  -- without parents the nodes are its own, and without blocks the loop is all there is to do
  unfold Member.render
  rw [show (library.lineage ⟨eachInstruction, []⟩).getLast? = some ⟨eachInstruction, []⟩ from rfl,
    Option.getD_some]
  dsimp only
  rw [nodes_eachInstruction, name_eachInstruction, maximalDepth, runUpTo, runNodes, hloop]
  unfold Document.lines Document.finite
  cases c.convertAll (Value.finiteItems d.instructions) with
  | error e => rfl
  | ok lines =>
      show Except.ok ("" ++ String.join (lines.map (· ++ "\n"))) = _
      rw [String.empty_append]

/-! ## The two ways -/

variable {directories : List (Option Directory)}

theorem ofSources_eq_ok_iff {E : Engine} {c : Converter} {texts : List (String × String)}
    {r : Renderer E} :
    ofSources c texts E = .ok r ↔
      ∃ templates, E.load texts = .ok templates ∧ r = ⟨templates, c⟩ := by
  unfold ofSources
  cases hload : E.load texts with
  | error problem => simp
  | ok templates => simp [eq_comm]

/-- A renderer is made of the templates that its engine loads of what the search finds. -/
theorem ofDirectories_eq_ok_iff {E : Engine} {c : Converter} {r : Renderer E} :
    ofDirectories c directories E = .ok r ↔
      ∃ found templates, sources directories = .ok found ∧ E.load found = .ok templates ∧
        r = ⟨templates, c⟩ := by
  unfold ofDirectories
  cases sources directories with
  | error e => simp
  | ok found => simp [ofSources_eq_ok_iff]

/-- Rendering with a name of the library renders what is found by it. -/
theorem render_of_find? {library : Library} {name : String} {m : Member}
    (hfind : library.find? name = some m) (c : Converter) (d : Document) (vars : Mapping Value) :
    render (⟨library, c⟩ : Renderer) name d vars =
      ((m.render ⟨library, withCommon (functions c), d.context vars⟩).mapError
        RenderError.ofProblem).mapError Failure.ofRendering := by
  have hname : library.names.contains name = true := by
    rw [List.contains_iff_mem]
    have hfound : m.template.name = name := by simpa using List.find?_some hfind
    exact hfound ▸ List.mem_map_of_mem (List.mem_of_find?_eq_some hfind)
  have hrendered : library.render (functions c) (d.context vars) name =
      (m.render ⟨library, withCommon (functions c), d.context vars⟩).mapError .ofProblem := by
    rw [Library.render, hfind]
  exact (if_pos hname).trans (congrArg _ hrendered)

theorem render_default (c : Converter)
    (hnone : ∀ directory, some directory ∈ directories → defaultName ∉ directory.keys)
    {r : Renderer} (hr : ofDirectories c directories = .ok r) {d : Document} (hd : d.Distinct)
    (vars : Mapping Value) :
    r.render defaultName d vars =
      match d.finite.lines c with
      | .ok lines => .ok (String.join (lines.map (· ++ "\n")))
      | .error e => .error (.instruction e) := by
  obtain ⟨found, library, hsources, hload, rfl⟩ := ofDirectories_eq_ok_iff.mp hr
  obtain ⟨-, -, hcatalogue⟩ := catalogue_of_sources hsources
  have hmem := hcatalogue.mem_builtin (provided?_eq_none hnone)
  have hlibrary := Results.ok_of_mapError hload
  rw [render_of_find? (Library.find?_builtin hcatalogue.nodup_names hmem hlibrary)]
  exact render_eachInstruction c library hd vars

/-- Where no directory has a template of the default name, rendering with that name gives the lines
of the document, each ended by a line break, or the failure of the first object without a line.
The entries beside the instructions and the variables have no part in it. -/
theorem render_eq_lines (c : Converter) {directories : List (Option Directory)}
    (hnone : ∀ directory, some directory ∈ directories → defaultName ∉ directory.keys)
    {r : Renderer} (hr : ofDirectories c directories = .ok r) {d : Document} (hd : d.Distinct)
    (vars : Mapping Value) :
    (d.Finite → d.finite = d) ∧
    (r.render defaultName d vars =
      match d.finite.lines c with
      | .ok lines => .ok (String.join (lines.map (· ++ "\n")))
      | .error e => .error (.instruction e)) ∧
    ∀ extra vars', r.render defaultName { d with extra } vars' = r.render defaultName d vars := by
  have hrender : ∀ vars, r.render defaultName d vars = _ := render_default c hnone hr hd
  refine ⟨Document.finite_eq_self, hrender vars, ?_⟩
  intro extra vars'
  have hother : r.render defaultName { d with extra } vars' = _ :=
    render_default c hnone hr (d := { d with extra }) hd vars'
  rw [hother, hrender vars]
  rfl

/-- Of two directories the first is missing, and the second has a template of another name. -/
def plainDirectories : List (Option Directory) := [none, some ⟨[("Base", .file (.ok "plain"))]⟩]

/-- Two instructions, and an entry beside them. -/
def twoInstructions : Document where
  extra := ⟨[("instruction", .string "none")]⟩
  instructions :=
    [.mapping ⟨[("from", .string "alpine:3")]⟩, .mapping ⟨[("user", .string "app")]⟩]

theorem ofDirectories_plainDirectories (c : Converter) :
    ofDirectories c plainDirectories =
      .ok ⟨⟨[⟨⟨"Base", none, [.text "plain"], []⟩, []⟩, ⟨eachInstruction, []⟩]⟩, c⟩ := by
  have hgather : gather .empty plainDirectories = .ok ⟨[("Base", "plain")]⟩ := rfl
  have hadd : (⟨[("Base", "plain")]⟩ : Mapping String).insert defaultName builtinText =
      ⟨[("Base", "plain"), (defaultName, builtinText)]⟩ := rfl
  have hsorted : [("Base", "plain"), (defaultName, builtinText)].Pairwise
      (fun a b => !decide (b.1 < a.1)) := by
    decide +kernel
  have hsources : sources plainDirectories =
      .ok [("Base", "plain"), (defaultName, builtinText)] := by
    rw [sources, hgather, Except.map, completed, if_neg (by decide), hadd,
      List.mergeSort_of_pairwise hsorted]
  have hplain : Template.ofText "Base" "plain" = .ok ⟨"Base", none, [.text "plain"], []⟩ := by
    cbv
  have hload : Library.ofSources [("Base", "plain"), (defaultName, builtinText)] =
      .ok ⟨[⟨⟨"Base", none, [.text "plain"], []⟩, []⟩, ⟨eachInstruction, []⟩]⟩ := by
    simp only [Library.ofSources, Library.readAll, ofText_builtinText, hplain]
    rfl
  have hloaded : Engine.modelled.load [("Base", "plain"), (defaultName, builtinText)] =
      .ok ⟨[⟨⟨"Base", none, [.text "plain"], []⟩, []⟩, ⟨eachInstruction, []⟩]⟩ := by
    rw [Engine.load_modelled, hload]
    rfl
  exact ofDirectories_eq_ok_iff.mpr ⟨_, _, hsources, hloaded, rfl⟩

theorem lines_twoInstructions :
    twoInstructions.finite.lines .builtin = .ok ["FROM alpine:3", "USER app"] := by
  have hsome : (twoInstructions.finite.lines .builtin).toOption =
      some ["FROM alpine:3", "USER app"] := by
    decide +kernel
  cases hlines : twoInstructions.finite.lines .builtin with
  | error e => simp [hlines, Except.toOption] at hsome
  | ok lines =>
      rw [hlines] at hsome
      rw [Option.some.inj hsome]

theorem render_twoInstructions :
    ∃ r, ofDirectories .builtin plainDirectories = .ok r ∧
      r.render defaultName twoInstructions .empty = .ok "FROM alpine:3\nUSER app\n" := by
  have hnone : ∀ directory, some directory ∈ plainDirectories →
      defaultName ∉ directory.keys := by
    intro directory hmem
    simp only [plainDirectories, List.mem_cons, reduceCtorEq, Option.some.injEq,
      List.not_mem_nil, or_false, false_or] at hmem
    subst hmem
    decide
  have hdistinct : twoInstructions.Distinct := by
    simp [Document.Distinct, twoInstructions, Value.DistinctItems, Value.Distinct,
      Value.DistinctEntries]
  have hwitness := render_eq_lines .builtin hnone (ofDirectories_plainDirectories .builtin)
    hdistinct .empty
  refine ⟨_, ofDirectories_plainDirectories .builtin, ?_⟩
  rw [hwitness.2.1, lines_twoInstructions]
  rfl

end Renderer

end ImageRecipe
