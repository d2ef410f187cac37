import ImageRecipe.Instruction.Line
import ImageRecipe.Json.Printer
import ImageRecipe.Value.Json

/-!
# The built-in instructions

The seventeen instructions of an image recipe and the shapes of argument each of them takes.

* `Usage` : what messages say about the argument of a handler
* `Body` : the texts that handlers make of their arguments
* `builtinHandlers` : all handlers, one for each instruction and shape
* `Registry.builtin`, `HandlerTable.builtin` : the registry and the table of these
-/

namespace ImageRecipe

/-! ## Usages -/

namespace Usage

def imageText : String := "<image>, <image>:<tag>, or <image>@<digest>"

def imageMapping : String :=
  "\x7b\"image\": \"...\", \"tag\": \"...\" | \"digest\": \"...\", \"alias\": \"...\", " ++
    "\"platform\": \"...\"\x7d"

def commandText : String := "<command>"

def commandSequence : String := "[\"<executable>\", \"<param1>\", \"<param2>\"]"

def commandMapping : String := "\x7b\"executable\": \"...\", \"params\": [\"...\", \"...\"]\x7d"

def pairs : String := "\x7b\"<key>\": \"<value>\", ...\x7d"

def variableText : String := "<key>=<value>"

def port : String := "<port>[/<protocol>]"

def ports : String := "[\"<port>[/<protocol>]\", ...]"

def pathsText : String := "<src>... <dest>"

def pathsSequence : String := "[\"<src>\", ..., \"<dest>\"]"

def volumeText : String := "<path>"

def volumeSequence : String := "[\"<path>\", ...]"

def userText : String := "<user>[:<group>]"

def userNumber : String := "<uid>"

def directory : String := "<path>"

def argumentText : String := "<name>[=<default value>]"

def argumentMapping : String := "\x7b\"<name>\": \"<default value>\"\x7d"

def trigger : String := "\x7b\"<INSTRUCTION>\": <argument>\x7d"

def signalName : String := "<signal name>"

def signalNumber : String := "<signal number>"

def noHealthcheck : String := "null"

def healthcheck : String :=
  "\x7b\"options\": \x7b\"interval\": \"...\", \"retries\": ...\x7d, \"cmd\": <CMD argument>\x7d"

def shellText : String := "<executable> <param>..."

def shellSequence : String := "[\"<executable>\", \"<param>\", ...]"

end Usage

/-! ## Arguments as bodies read them -/

namespace Call

/-- The argument as a text. -/
def text (call : Call) : Except InstructionError String :=
  match call.value with
  | .string s => .ok s
  | other => .error (call.mismatch "argument" Shape.string.text other)

/-- The argument as an integer. -/
def integer (call : Call) : Except InstructionError Int64 :=
  match call.value with
  | .integer n => .ok n
  | other => .error (call.mismatch "argument" Shape.integer.text other)

/-- The argument as a sequence. -/
def sequence (call : Call) : Except InstructionError (List Value) :=
  match call.value with
  | .sequence items => .ok items
  | other => .error (call.mismatch "argument" Shape.sequence.text other)

/-- The argument as a mapping. -/
def mapping (call : Call) : Except InstructionError (Mapping Value) :=
  match call.value with
  | .mapping m => .ok m
  | other => .error (call.mismatch "argument" Shape.mapping.text other)

/-- A part of the argument as it is written into a line. -/
def scalar (call : Call) (argument : String) (v : Value) : Except InstructionError String :=
  match v.scalarText? with
  | some s => .ok s
  | none => .error (call.mismatch argument "scalar" v)

/-- Scalars as they are written into a line, or the first that is none. -/
def scalars (call : Call) (argument : String) : List Value → Except InstructionError (List String)
  | [] => .ok []
  | v :: rest =>
    match call.scalar argument v with
    | .error e => .error e
    | .ok s => (call.scalars argument rest).map (s :: ·)

/-- Pairs of a key and a scalar, or the first value that is none. -/
def scalarPairs (call : Call) :
    List (String × Value) → Except InstructionError (List (String × String))
  | [] => .ok []
  | (key, v) :: rest =>
    match call.scalar key v with
    | .error e => .error e
    | .ok s => (call.scalarPairs rest).map ((key, s) :: ·)

/-- The one entry of the argument. -/
def onlyEntry (call : Call) (argument : String) : Except InstructionError (String × Value) :=
  match call.mapping with
  | .error e => .error e
  | .ok m =>
    match m.first? with
    | some entry => .ok entry
    | none => .error (.argumentMissing call.instruction argument call.usage)

end Call

/-! ## Bodies -/

namespace Body

/-- A body that needs no other instruction's line. -/
def pure (f : Call → Except InstructionError String) : Body := fun call => .done (f call)

/-- Values as a JSON array on one line, a space behind each comma. -/
def jsonArray (items : List Value) : String :=
  "[" ++ Layout.joinWith ", " (items.map fun v => v.toJson.text) ++ "]"

/-- The text as it is. -/
def verbatim : Body := .pure Call.text

/-- The integer in decimal. -/
def decimal : Body := .pure fun call => call.integer.map fun n => Decimal.integerText n.toInt

/-- Nothing. -/
def empty : Body := .pure fun _ => .ok ""

/-- An image reference, put together again from its groups. -/
def imageText : Body := .pure fun call =>
  call.capturesOrError.map fun captures =>
    Layout.joinPresent ((captures.get? "delimiter").getD "")
      [captures.get? "image", captures.get? "reference"]

/-- The text under a key of the argument, if it is one. -/
def textUnder (m : Mapping Value) (key : String) : Option String := (m.get? key).bind Value.string?

/-- An image, its tag or digest, its platform and its alias. -/
def imageMapping : Body := .pure fun call => do
  let m ← call.mapping
  let image := textUnder m "image"
  let tag ← match Constraint.givenKey? m "tag" with
    | none => .ok none
    | some tag => (call.scalar "tag" tag).map some
  let reference := match tag with
    | some tag => Layout.joinPresent ":" [image, some tag]
    | none => Layout.joinPresent "@" [image, textUnder m "digest"]
  let platform := (textUnder m "platform").map ("--platform=" ++ ·)
  let stage := (textUnder m "alias").map ("AS " ++ ·)
  .ok (Layout.joinPresent " " [platform, some reference, stage])

/-- How far a continued line is indented: past the instruction's name and a space. -/
def hanging (call : Call) (quote : Bool) : Layout.Spread :=
  ⟨Layout.continuation, call.instruction.utf8ByteSize + 1, quote⟩

/-- Scalars between quotes, one a line. -/
def quotedLines : Body := .pure fun call => do
  let lines ← call.scalars "command" (← call.sequence)
  .ok (Layout.joinItems (hanging call true) lines)

/-- The items as a JSON array. -/
def execSequence : Body := .pure fun call => call.sequence.map jsonArray

/-- The executable and its parameters as a JSON array. -/
def execMapping : Body := .pure fun call =>
  call.mapping.map fun m =>
    let executable := (m.get? "executable").toList
    let params := ((m.get? "params").bind Value.sequence?).getD []
    jsonArray (executable ++ params)

/-- Pairs of key and value, one a line. -/
def keyValueLines : Body := .pure fun call => do
  let pairs ← call.scalarPairs (← call.mapping).entries
  .ok (Layout.joinPairs (hanging call false) Layout.keyValueDelimiter pairs)

/-- Scalars with spaces between them. -/
def spaceSeparated : Body := .pure fun call => do
  let words ← call.scalars "ports" (← call.sequence)
  .ok (Layout.joinWith " " words)

/-- An assignment, put together again from its groups. -/
def argumentText : Body := .pure fun call =>
  call.capturesOrError.map fun captures =>
    Layout.joinPresent Layout.keyValueDelimiter [captures.get? "name", captures.get? "default"]

/-- The one entry as an assignment; a null default is none. -/
def argumentMapping : Body := .pure fun call => do
  let (name, value) ← call.onlyEntry "name"
  let default ← match value with
    | .null => .ok none
    | other => (call.scalar name other).map some
  .ok (Layout.joinPresent Layout.keyValueDelimiter [some name, default])

/-- The instructions that cannot stand inside another. -/
def notNestable : List String := ["ONBUILD", "HEALTHCHECK"]

/-- The line of the one instruction in the argument. -/
def trigger : Body := fun call =>
  match call.onlyEntry "instruction" with
  | .error e => .fail e
  | .ok (name, inner) =>
    if Text.asciiUpper name ∈ notNestable then
      .fail (.notNestable call.instruction (Text.asciiUpper name))
    else .onLine name inner .text

/-- An option as a flag; a key that has the dashes of a flag keeps them. -/
def flag (option : String × String) : String :=
  (if option.1.startsWith "--" then option.1 else "--" ++ option.1) ++ "=" ++ option.2

/-- The flags of a health check. -/
def flags (call : Call) (options : Option Value) : Except InstructionError String :=
  match options with
  | some (.mapping m) =>
    (call.scalarPairs m.entries).map fun pairs => Layout.joinWith " " (pairs.map flag)
  | _ => .ok ""

/-- Flags for the options, and the line of the command. -/
def healthcheck : Body := fun call =>
  match call.mapping with
  | .error e => .fail e
  | .ok m =>
    match flags call (m.get? "options") with
    | .error e => .fail e
    | .ok options =>
      match m.get? "cmd" with
      | none => .fail (.argumentMissing call.instruction "cmd" call.usage)
      | some command =>
        .onLine "CMD" command fun line =>
          .text (Layout.joinPresent " " [some options, some line])

/-- The words of the text as a JSON array. -/
def wordArray : Body := .pure fun call =>
  call.text.map fun s => jsonArray ((Text.words s).map .string)

end Body

/-! ## Handlers -/

/-- Takes a string that is given. -/
def stringHandler (name usage argument : String) (body : Body) : Handler :=
  { name, shape := .string, usage, constraints := [.required argument .string], body }

/-- Takes a sequence that is given. -/
def sequenceHandler (name usage argument : String) (body : Body) : Handler :=
  { name, shape := .sequence, usage, constraints := [.required argument .sequence], body }

/-- The three forms of a command; only its sequence differs between instructions. -/
def commandHandlers (name : String) (sequenceBody : Body) : List Handler :=
  [stringHandler name Usage.commandText "command" .verbatim,
   sequenceHandler name Usage.commandSequence "command" sequenceBody,
   { name, shape := .mapping, usage := Usage.commandMapping
     constraints := [.requiredKey "executable" [.string], .optionalKey "params" [.sequence] none]
     body := .execMapping }]

/-- The two forms of sources and a destination. -/
def copyHandlers (name : String) : List Handler :=
  [stringHandler name Usage.pathsText "paths" .verbatim,
   sequenceHandler name Usage.pathsSequence "paths" .execSequence]

/-- The two forms of an image. -/
def imageHandlers : List Handler :=
  [{ name := "FROM", shape := .string, usage := Usage.imageText
     constraints := [.required "image" .string, .pattern "image" .imageReference]
     readsCaptures := true
     body := .imageText },
   { name := "FROM", shape := .mapping, usage := Usage.imageMapping
     constraints :=
       [.requiredKey "image" [.string],
        .optionalKey "tag" [.string, .integer] (some "digest"),
        .optionalKey "digest" [.string] (some "tag"),
        .optionalKey "alias" [.string] none,
        .optionalKey "platform" [.string] none]
     body := .imageMapping }]

/-- Labels, ports and environment variables. -/
def metadataHandlers : List Handler :=
  [{ name := "LABEL", shape := .mapping, usage := Usage.pairs
     constraints := [.required "labels" .mapping], body := .keyValueLines },
   { name := "EXPOSE", shape := .integer, usage := Usage.port
     constraints := [.required "port" .integer], body := .decimal },
   sequenceHandler "EXPOSE" Usage.ports "ports" .spaceSeparated,
   stringHandler "ENV" Usage.variableText "variables" .verbatim,
   { name := "ENV", shape := .mapping, usage := Usage.pairs
     constraints := [.required "variables" .mapping], body := .keyValueLines }]

/-- Volumes, the user, the directory, and arguments of the build. -/
def settingHandlers : List Handler :=
  [stringHandler "VOLUME" Usage.volumeText "path" .verbatim,
   sequenceHandler "VOLUME" Usage.volumeSequence "paths" .execSequence,
   stringHandler "USER" Usage.userText "user" .verbatim,
   { name := "USER", shape := .integer, usage := Usage.userNumber
     constraints := [.bounds "uid" 0 4294967295], body := .decimal },
   stringHandler "WORKDIR" Usage.directory "path" .verbatim,
   { name := "ARG", shape := .string, usage := Usage.argumentText
     constraints := [.required "name" .string, .pattern "name" (.assignment .identifier)]
     readsCaptures := true
     body := .argumentText },
   { name := "ARG", shape := .mapping, usage := Usage.argumentMapping
     constraints := [.members "name" 1], body := .argumentMapping }]

/-- Takes the one instruction that is to run later. -/
def triggerHandler : Handler :=
  { name := "ONBUILD", shape := .mapping, usage := Usage.trigger
    constraints := [.members "instruction" 1], body := .trigger }

/-- Triggers, signals, health checks and the shell. -/
def runtimeHandlers : List Handler :=
  [triggerHandler,
   stringHandler "STOPSIGNAL" Usage.signalName "signal" .verbatim,
   { name := "STOPSIGNAL", shape := .integer, usage := Usage.signalNumber
     constraints := [.bounds "signal" 0 64], body := .decimal },
   { name := "HEALTHCHECK", shape := .null, usage := Usage.noHealthcheck, body := .empty },
   { name := "HEALTHCHECK", shape := .mapping, usage := Usage.healthcheck
     constraints :=
       [.requiredKey "cmd" [.string, .sequence, .mapping], .optionalKey "options" [.mapping] none]
     body := .healthcheck },
   stringHandler "SHELL" Usage.shellText "command" .wordArray,
   sequenceHandler "SHELL" Usage.shellSequence "command" .execSequence]

/-- Every built-in handler. -/
def builtinHandlers : List Handler :=
  imageHandlers ++ commandHandlers "RUN" .quotedLines ++ commandHandlers "CMD" .execSequence ++
    commandHandlers "ENTRYPOINT" .execSequence ++ metadataHandlers ++ copyHandlers "ADD" ++
    copyHandlers "COPY" ++ settingHandlers ++ runtimeHandlers

/-- The registry of the built-in handlers, no table built yet. -/
def Registry.builtin : Registry := { handlers := builtinHandlers }

/-- The table of the built-in handlers. -/
def HandlerTable.builtin : HandlerTable := Registry.builtin.table.1

/-! ## Conversions end -/

theorem Body.within_pure (f : Call → Except InstructionError String) (call : Call) :
    (Body.pure f call).Within call.value.depth := .done

/-- A call that is read as a mapping has one as its argument. -/
theorem Call.value_of_mapping {call : Call} {m : Mapping Value} (h : call.mapping = .ok m) :
    call.value = .mapping m := by
  simp only [Call.mapping] at h
  split at h
  · cases h; assumption
  · cases h

theorem Body.within_trigger (call : Call) : (Body.trigger call).Within call.value.depth := by
  simp only [Body.trigger]
  split
  · exact .done
  · rename_i name inner hentry
    split
    · exact .done
    · refine .onLine ?_ fun _ => .done
      simp only [Call.onlyEntry] at hentry
      split at hentry
      · cases hentry
      · rename_i m hm
        split at hentry
        · rename_i entry hfirst
          cases hentry
          rw [Call.value_of_mapping hm]
          exact Value.depth_lt_of_first? hfirst
        · cases hentry

theorem Body.within_healthcheck (call : Call) :
    (Body.healthcheck call).Within call.value.depth := by
  simp only [Body.healthcheck]
  split
  · exact .done
  · rename_i m hm
    split
    · exact .done
    · split
      · exact .done
      · rename_i command hcommand
        refine .onLine ?_ fun _ => .done
        rw [Call.value_of_mapping hm]
        exact Value.depth_lt_of_get? hcommand

/-- What holds of all plain bodies, of triggers and of health checks holds of the built-in
bodies. -/
theorem builtinHandlers_bodies {P : Body → Prop} (plain : ∀ f, P (.pure f))
    (trigger : P .trigger) (healthcheck : P .healthcheck) : ∀ h ∈ builtinHandlers, P h.body := by
  simp only [builtinHandlers, imageHandlers, commandHandlers, metadataHandlers, copyHandlers,
    settingHandlers, runtimeHandlers, stringHandler, sequenceHandler, triggerHandler,
    List.forall_mem_append, List.forall_mem_cons, List.not_mem_nil, false_implies, Body.verbatim,
    Body.decimal, Body.empty, Body.imageText, Body.imageMapping, Body.quotedLines,
    Body.execSequence, Body.execMapping, Body.keyValueLines, Body.spaceSeparated,
    Body.argumentText, Body.argumentMapping, Body.wordArray, plain, trigger, healthcheck,
    implies_true, and_self]

/-- The built-in bodies ask only for lines of what stands inside their argument. -/
theorem builtinHandlers_within :
    ∀ h ∈ builtinHandlers, ∀ call, (h.body call).Within call.value.depth :=
  builtinHandlers_bodies (P := fun body => ∀ call, (body call).Within call.value.depth)
    Body.within_pure Body.within_trigger Body.within_healthcheck

/-- The converter of the built-in handlers. -/
def Converter.builtin : Converter where
  table := .builtin
  within _ hh := builtinHandlers_within _ (HandlerTable.mem_of_mem_sort hh)

end ImageRecipe
