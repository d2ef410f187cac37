import ImageRecipe.Template.Search

/-!
# Command lines

* `Options` : how a Dockerfile is to be made
* `Command` : what a command line asks for
* `UsageError` : why it asks for nothing
* `Command.ofArguments` : reads a command line, one argument after the other
-/

namespace ImageRecipe.CommandLine

/-- How a Dockerfile is to be made. -/
structure Options where
  document : Option String := none
  stdin : Bool := false
  templateVariables : Option String := none
  buildVariables : Option String := none
  template : Option String := none
  searchPaths : List String := []
  output : Option String := none
  verify : Bool := false
  verbosity : Nat := 0
  deriving DecidableEq, Repr

/-- The name of the template. -/
def Options.templateName (o : Options) : String := o.template.getD Template.defaultName

/-- Shells that complete command lines. -/
inductive Shell where
  | bash
  | zsh
  | fish
  deriving DecidableEq, Repr

/-- What an explanation is about. -/
inductive Topic where
  | program
  | completion
  | instructions
  | help
  deriving DecidableEq, Repr

/-- What a command line asks for. -/
inductive Command where
  /-- A Dockerfile. -/
  | generate (options : Options)
  /-- The list of instructions. -/
  | instructions
  /-- Completion of command lines. -/
  | completion (shell : Shell)
  /-- The version of the program. -/
  | version
  /-- An explanation, short or long. -/
  | help (topic : Topic) (long : Bool)
  deriving DecidableEq, Repr

/-- Why a command line asks for nothing. -/
inductive UsageError where
  /-- The argument is not known, or one too many. -/
  | unexpected (argument : String)
  /-- An option lacks its value. -/
  | noValue (option : String)
  /-- A path is empty. -/
  | emptyValue (option : String)
  /-- An option that takes no value has one. -/
  | needlessValue (option : String)
  /-- An option is there twice. -/
  | repeated (option : String)
  /-- The name of the shell is missing. -/
  | noShell
  /-- There is no such shell. -/
  | unknownShell (name : String)
  /-- There is no such command to explain. -/
  | unknownCommand (name : String)
  deriving DecidableEq, Repr

/-- The wording of each cause. -/
def UsageError.message : UsageError → String
  | .unexpected argument => "error: unexpected argument '" ++ argument ++ "' found"
  | .noValue option => "error: a value is required for '" ++ option ++ "' but none was supplied"
  | .emptyValue option => "error: a value is required for '" ++ option ++ "' but none was supplied"
  | .needlessValue option =>
    "error: unexpected value for '" ++ option ++ "' found; no more were expected"
  | .repeated option => "error: the argument '" ++ option ++ "' cannot be used multiple times"
  | .noShell => "error: the following required arguments were not provided:\n  <SHELL>"
  | .unknownShell name => "error: invalid value '" ++ name ++ "' for '<SHELL>'"
  | .unknownCommand name => "error: unrecognized subcommand '" ++ name ++ "'"

/-! ## Options and flags -/

/-- Options that take a value. -/
inductive Valued where
  | templateVariables
  | buildVariables
  | template
  | searchPath
  | output
  deriving DecidableEq, Repr

/-- Options that take none. -/
inductive Flag where
  | stdin
  | verify
  | verbose
  | version
  | help (long : Bool)
  deriving DecidableEq, Repr

/-- An option behind two dashes. -/
def longOption? : String → Option (Valued ⊕ Flag)
  | "template-variables" => some (.inl .templateVariables)
  | "build-variables" => some (.inl .buildVariables)
  | "template" => some (.inl .template)
  | "search-path" => some (.inl .searchPath)
  | "output" => some (.inl .output)
  | "stdin" => some (.inr .stdin)
  | "verify" => some (.inr .verify)
  | "verbose" => some (.inr .verbose)
  | "version" => some (.inr .version)
  | "help" => some (.inr (.help true))
  | _ => none

/-- An option behind one dash. -/
def shortOption? : Char → Option (Valued ⊕ Flag)
  | 'b' => some (.inl .buildVariables)
  | 't' => some (.inl .template)
  | 's' => some (.inl .searchPath)
  | 'o' => some (.inl .output)
  | 'v' => some (.inr .verbose)
  | 'V' => some (.inr .version)
  | 'h' => some (.inr (.help false))
  | _ => none

/-- How messages name an option. -/
def Valued.display : Valued → String
  | .templateVariables => "--template-variables <PATH>"
  | .buildVariables => "--build-variables <PATH>"
  | .template => "--template <NAME>"
  | .searchPath => "--search-path <DIR>"
  | .output => "--output <PATH>"

/-- The option names a path, which cannot be empty. -/
def Valued.isPath : Valued → Bool
  | .template => false
  | .templateVariables | .buildVariables | .searchPath | .output => true

/-- Sets an option that may be there once. -/
def setOnce (option : Valued) (value : String) : Option String → Except UsageError (Option String)
  | none => .ok (some value)
  | some _ => .error (.repeated option.display)

/-- Gives an option its value. -/
def Options.set (o : Options) (option : Valued) (value : String) : Except UsageError Options :=
  if option.isPath && value.isEmpty then .error (.emptyValue option.display)
  else match option with
    | .templateVariables =>
      (setOnce option value o.templateVariables).map fun v => { o with templateVariables := v }
    | .buildVariables =>
      (setOnce option value o.buildVariables).map fun v => { o with buildVariables := v }
    | .template => (setOnce option value o.template).map fun v => { o with template := v }
    | .output => (setOnce option value o.output).map fun v => { o with output := v }
    | .searchPath => .ok { o with searchPaths := o.searchPaths ++ [value] }

/-- Takes a document. -/
def Options.addDocument (o : Options) (path : String) : Except UsageError Options :=
  if o.document.isSome then .error (.unexpected path)
  else if path.isEmpty then .error (.emptyValue "[DOCUMENT]")
  else .ok { o with document := some path }

/-! ## Arguments -/

/-- What an argument leads to. -/
inductive Step where
  /-- The next argument follows. -/
  | next (options : Options)
  /-- The next argument is the value of an option. -/
  | value (option : Valued) (options : Options)
  /-- The rest does not matter. -/
  | done (command : Command)

/-- What a flag leads to. -/
def Flag.step (f : Flag) (o : Options) : Except UsageError Step :=
  match f with
  | .stdin => if o.stdin then .error (.repeated "--stdin") else .ok (.next { o with stdin := true })
  | .verify =>
    if o.verify then .error (.repeated "--verify") else .ok (.next { o with verify := true })
  | .verbose => .ok (.next { o with verbosity := o.verbosity + 1 })
  | .version => .ok (.done .version)
  | .help long => .ok (.done (.help .program long))

/-- What an option behind two dashes leads to; a value may stand behind an equals sign. -/
def longStep (text : List Char) (o : Options) : Except UsageError Step :=
  let name := String.ofList (text.takeWhile (· != '='))
  let value : Option String := match text.dropWhile (· != '=') with
    | _ :: value => some (String.ofList value)
    | [] => none
  match longOption? name, value with
  | none, _ => .error (.unexpected ("--" ++ name))
  | some (.inl option), some value => (o.set option value).map .next
  | some (.inl option), none => .ok (.value option o)
  | some (.inr _), some _ => .error (.needlessValue ("--" ++ name))
  | some (.inr flag), none => flag.step o

/-- What options behind one dash lead to; the first one that takes a value takes what follows. -/
def shortStep (o : Options) : List Char → Except UsageError Step
  | [] => .ok (.next o)
  | c :: rest =>
    match shortOption? c, rest with
    | none, _ => .error (.unexpected ("-" ++ c.toString))
    | some (.inl option), [] => .ok (.value option o)
    | some (.inl option), '=' :: value => (o.set option (String.ofList value)).map .next
    | some (.inl option), value => (o.set option (String.ofList value)).map .next
    | some (.inr flag), rest =>
      match flag.step o with
      | .ok (.next o) => shortStep o rest
      | other => other

/-- The argument starts with a dash and is more than that. -/
def looksLikeOption (argument : String) : Bool :=
  match argument.toList with
  | '-' :: _ :: _ => true
  | _ => false

/-- What an argument leads to that is neither a command nor two dashes. -/
def stepOf (argument : String) (o : Options) : Except UsageError Step :=
  match argument.toList with
  | '-' :: '-' :: text => longStep text o
  | '-' :: c :: text => shortStep o (c :: text)
  | _ => (o.addDocument argument).map .next

/-- Documents behind two dashes. -/
def readDocuments (o : Options) : List String → Except UsageError Command
  | [] => .ok (.generate o)
  | path :: rest =>
    match o.addDocument path with
    | .error e => .error e
    | .ok o => readDocuments o rest

/-- What follows the command that lists the instructions. -/
def readInstructions : List String → Except UsageError Command
  | [] | ["--"] => .ok .instructions
  | "-h" :: _ => .ok (.help .instructions false)
  | "--help" :: _ => .ok (.help .instructions true)
  | argument :: _ => .error (.unexpected argument)

/-- What follows the command for completion. -/
def readCompletion : List String → Except UsageError Command
  | [] | ["--"] => .error .noShell
  | "-h" :: _ => .ok (.help .completion false)
  | "--help" :: _ => .ok (.help .completion true)
  | ["bash"] | ["--", "bash"] => .ok (.completion .bash)
  | ["zsh"] | ["--", "zsh"] => .ok (.completion .zsh)
  | ["fish"] | ["--", "fish"] => .ok (.completion .fish)
  | name :: _ => .error (.unknownShell name)

/-- A command that can be explained, itself without commands of its own. -/
def topic? : String → Option Topic
  | "completion" => some .completion
  | "instructions" => some .instructions
  | "help" => some .help
  | _ => none

/-- What follows the command for explanations. -/
def readHelp : List String → Except UsageError Command
  | [] => .ok (.help .program true)
  | name :: rest =>
    match topic? name, rest with
    | none, _ => .error (.unknownCommand name)
    | some _, other :: _ => .error (.unknownCommand other)
    | some topic, [] => .ok (.help topic true)

/-- Reads the arguments that follow. -/
def readArguments (o : Options) : List String → Except UsageError Command
  | [] => .ok (.generate o)
  | "--" :: rest => readDocuments o rest
  | "instructions" :: rest => readInstructions rest
  | "completion" :: rest => readCompletion rest
  | "help" :: rest => readHelp rest
  | argument :: rest =>
    match stepOf argument o with
    | .error e => .error e
    | .ok (.done command) => .ok command
    | .ok (.next o) => readArguments o rest
    | .ok (.value option o) =>
      match rest with
      | [] => .error (.noValue option.display)
      | value :: rest =>
        if looksLikeOption value then .error (.noValue option.display)
        else match o.set option value with
          | .error e => .error e
          | .ok o => readArguments o rest

/-- What a command line asks for. -/
def Command.ofArguments (arguments : List String) : Except UsageError Command :=
  readArguments {} arguments

end ImageRecipe.CommandLine
