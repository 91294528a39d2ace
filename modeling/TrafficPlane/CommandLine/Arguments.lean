/-!
# Arguments

The command line is read from left to right, and the first thing that stops it decides the outcome:
a request for help or for the version, or a mistake. An option of one letter may share its word with
others, and the value of an option may be part of its word or the next one.

## Main definitions

* `Invocation`: what a command line asks for
* `Invocation.ofArguments`: reads a command line
* `Stop`: why a command line asks for nothing
-/

namespace TrafficPlane.CommandLine

/-- The commands of the program. -/
inductive CommandName where
  | render
  | check
deriving DecidableEq, Repr

/-- How a pass is printed. -/
inductive OutputFormat where
  | json
  | summary
deriving DecidableEq, Repr

/-- What help is asked for. -/
inductive HelpTopic where
  | program
  | command (name : CommandName)
  | help
deriving DecidableEq, Repr

/-- Why a command line asks for nothing that could be run. -/
inductive Stop where
  | help (topic : HelpTopic)
  | version
  | misuse
deriving DecidableEq, Repr

/-- The exit code of a program that has stopped. -/
def Stop.exitCode : Stop → Nat
  | .misuse => 2
  | _ => 0

/-- Where a pass finds its declarations. -/
structure InputOptions where
  specs : String
  memberships : Option String := none
  /-- The one namespace whose specs count. -/
  space : Option String := none
deriving DecidableEq, Repr

/-- A command with its options. -/
inductive Command where
  | render (input : InputOptions) (format : OutputFormat)
  | check (input : InputOptions)
deriving DecidableEq, Repr

/-- What a command line asks for. -/
structure Invocation where
  command : Command
  verbose : Bool := false
deriving DecidableEq, Repr

/-- The word of a command. -/
def CommandName.word : CommandName → String
  | .render => "render"
  | .check => "check"

/-- The command that a word names. -/
def CommandName.ofWord? (word : String) : Option CommandName :=
  [CommandName.render, .check].find? (·.word == word)

/-! ### Options -/

/-- The options that have values. -/
inductive Setting where
  | specs
  | memberships
  | space
  | format
deriving DecidableEq, Repr

/-- The options that have none. -/
inductive Switch where
  | verbose
  | help
  | version
deriving DecidableEq, Repr

/-- The option that is meant, with a value or without. -/
inductive Parameter where
  | setting (setting : Setting)
  | switch (switch : Switch)
deriving DecidableEq, Repr

/-- Where options are read: in front of a command or after it. -/
abbrev Place := Option CommandName

/-- An option that may stand at a place. -/
def Parameter.admitted (place : Place) : Parameter → Bool
  | .setting .format => place == some .render
  | .setting _ => place.isSome
  | .switch .version => place.isNone
  | .switch _ => true

/-- The option of a name. -/
def Parameter.ofName? : String → Option Parameter
  | "specs" => some (.setting .specs)
  | "membership" => some (.setting .memberships)
  | "namespace" => some (.setting .space)
  | "output" => some (.setting .format)
  | "verbose" => some (.switch .verbose)
  | "help" => some (.switch .help)
  | "version" => some (.switch .version)
  | _ => none

/-- The option of a letter. -/
def Parameter.ofLetter? : Char → Option Parameter
  | 'n' => some (.setting .space)
  | 'o' => some (.setting .format)
  | 'v' => some (.switch .verbose)
  | 'h' => some (.switch .help)
  | 'V' => some (.switch .version)
  | _ => none

/-- The options read so far at one place. -/
structure Options where
  specs : Option String := none
  memberships : Option String := none
  space : Option String := none
  format : Option OutputFormat := none
  verbose : Bool := false
deriving DecidableEq, Repr

/-- Gives a value to something that has none yet. -/
def setOnce {α : Type} (current : Option α) (value : α) : Except Stop (Option α) :=
  if current.isSome then .error .misuse else .ok (some value)

/-- A path, which is not empty. -/
def readPath (text : String) : Except Stop String :=
  if text = "" then .error .misuse else .ok text

/-- A format by its name. -/
def readFormat : String → Except Stop OutputFormat
  | "json" => .ok .json
  | "summary" => .ok .summary
  | _ => .error .misuse

namespace Options

/-- The options with a value for one that has none yet. -/
def set (options : Options) (setting : Setting) (value : String) : Except Stop Options := do
  match setting with
  | .specs => return { options with specs := ← setOnce options.specs (← readPath value) }
  | .memberships =>
    return { options with memberships := ← setOnce options.memberships (← readPath value) }
  | .space => return { options with space := ← setOnce options.space value }
  | .format => return { options with format := ← setOnce options.format (← readFormat value) }

/-- The options with a switch turned on that is not on yet. Help and the version stop the
reading. -/
def turnOn (options : Options) (place : Place) (switch : Switch) : Except Stop Options :=
  match switch with
  | .verbose =>
    if options.verbose then .error .misuse else .ok { options with verbose := true }
  | .help => .error (.help ((place.map .command).getD .program))
  | .version => .error .version

end Options

/-! ### Words -/

/-- A word of the command line. -/
inductive Word where
  /-- After this word there are no options. -/
  | separator
  | named (name : String) (value : Option String)
  | letters (letters : List Char)
  | operand (text : String)
deriving DecidableEq, Repr

/-- What a word is by its look. A lone hyphen is no option. -/
def Word.ofText (text : String) : Word :=
  match text.toList with
  | ['-', '-'] => .separator
  | '-' :: '-' :: rest =>
    let name := rest.takeWhile (· ≠ '=')
    match rest.drop name.length with
    | _ :: value => .named (.ofList name) (some (.ofList value))
    | [] => .named (.ofList name) none
  | '-' :: c :: rest => .letters (c :: rest)
  | _ => .operand text

/-- An option that may stand at a place. -/
def parameterAt (place : Place) (parameter : Option Parameter) : Except Stop Parameter :=
  match parameter with
  | some parameter => if parameter.admitted place then .ok parameter else .error .misuse
  | none => .error .misuse

/-- Options, perhaps with one that still needs its value. -/
abbrev Progress := Options × Option Setting

/-- Reads an option that goes by its name. -/
def readNamed (place : Place) (name : String) (value : Option String) (options : Options) :
    Except Stop Progress := do
  match ← parameterAt place (Parameter.ofName? name), value with
  | .setting setting, some value => return (← options.set setting value, none)
  | .setting setting, none => return (options, some setting)
  | .switch switch, none => return (← options.turnOn place switch, none)
  | .switch _, some _ => .error .misuse

/-- Reads options that go by letters. What follows the letter of an option with a value is its
value, after an equals sign or without one. -/
def readLetters (place : Place) : List Char → Options → Except Stop Progress
  | [], options => .ok (options, none)
  | c :: rest, options => do
    match ← parameterAt place (Parameter.ofLetter? c), rest with
    | .switch switch, rest => readLetters place rest (← options.turnOn place switch)
    | .setting setting, [] => return (options, some setting)
    | .setting setting, '=' :: value => return (← options.set setting (.ofList value), none)
    | .setting setting, value => return (← options.set setting (.ofList value), none)

/-- Reads the words after a command, to which no operands belong. -/
def readOptions (place : Place) : List String → Options → Except Stop Options
  | [], options => .ok options
  | text :: rest, options => do
    let (options, pending) ← match Word.ofText text with
      | .separator => if rest.isEmpty then pure (options, none) else .error .misuse
      | .named name value => readNamed place name value options
      | .letters letters => readLetters place letters options
      | .operand _ => .error .misuse
    match pending, rest with
    | none, rest => readOptions place rest options
    | some _, [] => .error .misuse
    | some setting, value :: rest =>
      match Word.ofText value with
      | .operand value => readOptions place rest (← options.set setting value)
      | _ => .error .misuse

/-! ### Commands -/

/-- The command with its options, of which the directory of specs has to be given. -/
def Command.ofOptions (name : CommandName) (options : Options) : Except Stop Command :=
  match options.specs with
  | none => .error .misuse
  | some specs =>
    let input : InputOptions :=
      { specs, memberships := options.memberships, space := options.space }
    match name with
    | .render => .ok (.render input (options.format.getD .json))
    | .check => .ok (.check input)

/-- The topic of a request for help by words. -/
def helpTopic : List String → Stop
  | [] => .help .program
  | [word] =>
    if word = "help" then .help .help
    else ((CommandName.ofWord? word).map fun name => .help (.command name)).getD .misuse
  | _ => .misuse

namespace Invocation

/-- Reads the words of a command line, with the options so far that stand in front of a command. -/
def ofWords : List String → Options → Except Stop Invocation
  | [], _ => .error .misuse
  | text :: rest, options => do
    match Word.ofText text with
    | .separator => .error .misuse
    | .named name value => ofWords rest (← readNamed none name value options).1
    | .letters letters => ofWords rest (← readLetters none letters options).1
    | .operand word =>
      if word = "help" then .error (helpTopic rest)
      else match CommandName.ofWord? word with
        | none => .error .misuse
        | some name =>
          let inner ← readOptions (some name) rest {}
          return {
            command := ← Command.ofOptions name inner
            verbose := options.verbose || inner.verbose }

/-- Reads a command line, without the name of the program. -/
def ofArguments (arguments : List String) : Except Stop Invocation :=
  ofWords arguments {}

end Invocation

end TrafficPlane.CommandLine
