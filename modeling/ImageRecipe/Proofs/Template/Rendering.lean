import ImageRecipe.Template.Rendering

/-!
# What names, calls and loops do

The parts of a rendering that a template with one loop needs.  A name is found in the innermost
frame that has it, so a round of a loop shows the value it meets, whatever the variables are.

* `IsName`, `Scope.lookUp_valueName`, `Scope.lookUp_variable` : names without points and brackets
* `Expression.value_path`, `Expression.value_call` : variables, and calls with one argument
* `WritesRounds`, `runRounds_eq` : what one round writes, and from it what all rounds write
-/

namespace ImageRecipe

/-- The empty pointer leads nowhere. -/
theorem Json.at?_empty (j : Json) : j.at? "" = some j := by
  unfold Json.at?
  rw [show Template.Pointer.names "" = [] from rfl]
  cases j <;> rfl

namespace Template

/-! ## Names -/

/-- The text is a name alone: there are neither brackets nor points in it. -/
structure IsName (text : String) : Prop where
  noBracket : Path.isBracketed text = false
  noPoint : Path.splitAtPoint text = (text, none)

/-- The state of a loop is behind a point, so no name stands for it. -/
theorem IsName.ne_of_point {text path : String} (h : IsName text)
    (hpath : (Path.splitAtPoint path).2 ≠ none) : text ≠ path := by
  rintro rfl
  rw [h.noPoint] at hpath
  exact hpath rfl

theorem assigned?_empty (path : String) : assigned? .empty path = none := by
  unfold assigned?
  rcases Path.splitAtPoint path with ⟨root, rest⟩
  cases rest <;> rfl

/-- In a round, the name of the loop stands for the value that the round meets. -/
theorem Round.find?_valueName {round : Round} (hname : IsName round.valueName)
    (hkey : round.keyName = none) : round.find? round.valueName = some round.value := by
  -- the state of the loop is asked for before the names, but it has a point in its paths
  have hindex : round.valueName ≠ "loop.index" := hname.ne_of_point (by decide)
  have hindex0 : round.valueName ≠ "loop.index0" := hname.ne_of_point (by decide)
  have hfirst : round.valueName ≠ "loop.first" := hname.ne_of_point (by decide)
  have hlast : round.valueName ≠ "loop.last" := hname.ne_of_point (by decide)
  unfold Round.find?
  rw [if_neg hindex, if_neg hindex0, if_neg hfirst, if_neg hlast, hkey, if_neg nofun, hname.noPoint]
  simp only [if_pos, Option.getD_none]
  exact Json.at?_empty round.value

namespace Scope

theorem lookUp_of_find? {s : Scope} {name : String} (hname : IsName name) {j : Json}
    (h : s.find? name = some j) : s.lookUp ⟨name⟩ = .ok j := by
  unfold lookUp lookUpWithin
  simp [hname.noBracket, h]

/-- Whatever the frames around a round and the variables are, the round comes first. -/
theorem lookUp_valueName (template : String) {round : Round} (frames : List Frame)
    (vars : Mapping Json) (hname : IsName round.valueName) (hkey : round.keyName = none) :
    (⟨⟨template, .empty, some round⟩ :: frames, vars⟩ : Scope).lookUp ⟨round.valueName⟩ =
      .ok round.value := by
  apply lookUp_of_find? hname
  have hframe : (⟨template, .empty, some round⟩ : Frame).find? round.valueName =
      some round.value := by
    unfold Frame.find?
    rw [assigned?_empty]
    exact Round.find?_valueName hname hkey
  simp only [find?, List.findSome?_cons, hframe]

/-- Outside of loops, and where nothing has been set, a name stands for a variable. -/
theorem lookUp_variable {template name : String} {vars : Mapping Json} (hname : IsName name)
    {j : Json} (hvar : vars.get? name = some j) :
    (⟨[⟨template, .empty, none⟩], vars⟩ : Scope).lookUp ⟨name⟩ = .ok j := by
  apply lookUp_of_find? hname
  have hframe : (⟨template, .empty, none⟩ : Frame).find? name = none := by
    unfold Frame.find?
    rw [assigned?_empty]
    rfl
  simp only [find?, List.findSome?_cons, hframe, List.findSome?_nil, findVar?, hname.noPoint, hvar]

end Scope

/-! ## Expressions -/

namespace Expression

/-- An atom alone has its own value, unless that is a truth value that is denied twice. -/
theorem value_ofAtom {a : Atom} (h : a.isLogic = false) (s : Setting) :
    (ofAtom a).value s = (a.meaning s).value := by
  unfold ofAtom value meaning filterMeanings expressionMeaning expressionValue baseValue
  rw [h]
  cases (a.meaning s).value <;> simp [passFilters]

theorem value_path (p : Path) (s : Setting) : (ofAtom (.path p)).value s = s.scope.lookUp p := by
  rw [value_ofAtom rfl, Atom.meaning, Meaning.ofVariable]

/-- A call with one argument: a fault of the argument is one of the function. -/
theorem value_call (name argument : String) (e : Expression) (s : Setting) :
    (ofAtom (.call name [(argument, e)])).value s =
      s.call name ((e.value s).map (Mapping.empty.insert argument)) := by
  rw [value_ofAtom rfl, Atom.meaning, Meaning.ofCall]
  simp only [argumentMeanings, List.any_nil, Bool.false_eq_true, if_false, argumentValues]
  unfold value
  cases (e.meaning s).value <;> rfl

end Expression

/-! ## Loops -/

/-- The state in a round of a loop. -/
def Run.enterRound (r : Run) (round : Round) : Run :=
  { r with frames := ⟨r.template, .empty, some round⟩ :: r.frames }

/-- Behind a round that wrote a text, the frame of the round is gone and the text is there. -/
theorem Run.leaveFrame_enterRound (r : Run) (round : Round) (text : String) :
    ((r.enterRound round).write text).leaveFrame = r.write text := rfl

theorem Run.write_write (r : Run) (first second : String) :
    (r.write first).write second = r.write (first ++ second) := by
  unfold write
  rw [String.append_assoc]

theorem Run.write_nothing (r : Run) : r.write "" = r := by
  unfold write
  rw [String.append_empty]

/-- In each round of a loop its body writes a text for the value that the round meets, or stops. -/
def WritesRounds (h : Heading) (body : Run → Outcome) (textOf : Json → Except Fault String) :
    Prop :=
  ∀ (r : Run) (round : Round), round.keyName = h.key → round.valueName = h.value →
    body (r.enterRound round) =
      match textOf round.value with
      | .ok text => ((r.enterRound round).write text).proceed
      | .error fault => r.stop fault

theorem runRounds_cons (h : Heading) (count : Nat) (body : Run → Outcome) (index : Nat)
    (key : String) (value : Json) (rest : List (String × Json)) (r : Run) :
    runRounds h count body index ((key, value) :: rest) r =
      match body (r.enterRound ⟨h.key, h.value, key, value, index, count⟩) with
      | .error stop => .error stop
      | .ok (r, .leave) => r.leaveFrame.proceed
      | .ok (r, _) => runRounds h count body (index + 1) rest r.leaveFrame := rfl

/-- All rounds write their texts in order, and the first fault is that of the loop. -/
theorem runRounds_eq {h : Heading} {body : Run → Outcome} {textOf : Json → Except Fault String}
    (hbody : WritesRounds h body textOf) (count index : Nat) (entries : List (String × Json))
    (r : Run) :
    runRounds h count body index entries r =
      match (entries.map Prod.snd).mapM textOf with
      | .ok texts => (r.write (String.join texts)).proceed
      | .error fault => r.stop fault := by
  induction entries generalizing index r with
  | nil => exact congrArg Run.proceed r.write_nothing.symm
  | cons entry rest ih =>
      obtain ⟨key, value⟩ := entry
      rw [runRounds_cons, hbody r _ rfl rfl, List.map_cons, List.mapM_cons]
      cases htext : textOf value with
      | error fault => rfl
      | ok text =>
          simp only [Run.proceed, Run.leaveFrame_enterRound, ih]
          cases (rest.map Prod.snd).mapM textOf with
          | error fault => rfl
          | ok texts =>
              show Run.proceed ((r.write text).write (String.join texts)) =
                Run.proceed (r.write (String.join (text :: texts)))
              rw [Run.write_write, String.join_cons]

/-- A loop over an array, its body being one that writes a text for each item. -/
theorem runNode_loop {stage : Stage} {jump : List Node → Run → Outcome} {h : Heading}
    {body : List Node} {textOf : Json → Except Fault String} {r : Run} {items : List Json}
    (hrounds : h.rounds (r.setting stage) = .ok (items.map fun item => ("", item)))
    (hbody : WritesRounds h (runNodes stage jump body) textOf) :
    runNode stage jump (.loop h body []) r =
      match items.mapM textOf with
      | .ok texts => (r.write (String.join texts)).proceed
      | .error fault => r.stop fault := by
  have hitems : (items.map fun item => ("", item)).map Prod.snd = items := by
    rw [List.map_map]
    exact List.map_id items
  have hall := runRounds_eq hbody items.length 0 (items.map fun item => ("", item)) r
  rw [hitems] at hall
  rw [runNode, hrounds, ← hall]
  -- without items the loop does what it says for that case, which is nothing
  cases items with
  | nil => rfl
  | cons item rest => simp

end Template

end ImageRecipe
