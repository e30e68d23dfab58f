import Blockflow.Block.Kind

/-!
# Arguments

What the arguments of the command line ask for. Arguments are read from left to right, and the
first one that is wrong, or that asks for help, decides. An option is given once at most; its value
follows as the next argument, which must not start with a dash, or after an equals sign. Two dashes
alone end the options.

The record `Cli` and the enumeration `Command` of `workflow-cli`; specification C.8.
-/

namespace Blockflow.Command

/-- What is to be done. Enumeration `Command`. -/
inductive Action where
  /-- Lists the types of blocks, or those of a category. -/
  | blocks (category : Option Category)
  /-- Reports the problems of a workflow, perhaps as JSON. -/
  | validate (file : String) (json : Bool)
  /-- Writes the pipeline of a workflow to a file, or prints it. -/
  | compile (file : String) (output : Option String)
  /-- Deploys a workflow. -/
  | deploy (file : String) (overwrite : Bool) (lastSeen : Option String)
  /-- Deletes the deployed pipeline of a workflow. -/
  | undeploy (file : String)
  /-- Starts a run of a workflow and follows it. -/
  | run (file : String) (ref : Option String)
  /-- Follows a run of a workflow. -/
  | watch (file : String) (run : Nat)
deriving DecidableEq

/-- What is to be done, and where the options are kept. Record `Cli`. -/
structure Order where
  /-- The file with the options. -/
  config : String
  /-- What is to be done. -/
  action : Action
deriving DecidableEq

/-- Why there is nothing to be done. -/
inductive Stop where
  /-- Help was asked for. -/
  | help
  /-- The version was asked for. -/
  | version
  /-- The arguments make no sense. -/
  | misuse
deriving DecidableEq

/-- The kind of value that an option takes. -/
inductive ValueKind where
  /-- A path, which is not empty. -/
  | path
  /-- Any text. -/
  | text
  /-- The name of a category. -/
  | category
  /-- A number below `2 ^ 64`. -/
  | number
deriving DecidableEq

/-- The number that a text writes in decimal, perhaps after a plus sign. -/
def number? (s : String) : Option Nat :=
  let digits := match s.toList with
    | '+' :: ds => ds
    | ds => ds
  if digits.isEmpty || digits.any (fun c ↦ !c.isDigit) then none
  else
    let n := digits.foldl (fun n c ↦ n * 10 + (c.toNat - 48)) 0
    if n < Nat.pow 2 64 then some n else none

/-- Whether an option of a kind takes a value. -/
def ValueKind.takes : ValueKind → String → Bool
  | .path, s => !s.isEmpty
  | .text, _ => true
  | .category, s => (Category.ofTag? s).isSome
  | .number, s => (number? s).isSome

/-- What may be given after the name of an action. -/
structure Grammar where
  /-- The options with a value. -/
  options : List (String × ValueKind)
  /-- The options without a value. -/
  flags : List String
  /-- The options that may also be given by one letter. -/
  letters : List (Char × String)
  /-- Whether there has to be a file. -/
  hasFile : Bool
  /-- Whether the version may be asked for. -/
  hasVersion : Bool

/-- The option that may be given everywhere. -/
def configOption : String × ValueKind := ("config", .path)

/-- What may be given before the name of an action. -/
def rootGrammar : Grammar := ⟨[configOption], [], [], false, true⟩

/-- What may be given after the name of an action. -/
def grammar? : String → Option Grammar
  | "blocks" => some ⟨[configOption, ("category", .category)], [], [], false, false⟩
  | "validate" => some ⟨[configOption], ["json"], [], true, false⟩
  | "compile" => some ⟨[configOption, ("output", .path)], [], [('o', "output")], true, false⟩
  | "deploy" => some ⟨[configOption, ("expected-sha", .text)], ["overwrite"], [], true, false⟩
  | "undeploy" => some ⟨[configOption], [], [], true, false⟩
  | "run" => some ⟨[configOption, ("ref", .text)], [], [], true, false⟩
  | "watch" => some ⟨[configOption, ("run-id", .number)], [], [], true, false⟩
  | _ => none

/-- What has been given so far. -/
structure Given where
  /-- The options with their values. -/
  values : List (String × String)
  /-- The options without values. -/
  flags : List String
  /-- The file. -/
  file : Option String
deriving Inhabited

namespace Given

/-- The value of an option. -/
def value? (g : Given) (name : String) : Option String := g.values.lookup name

/-- Whether an option without a value has been given. -/
def has (g : Given) (name : String) : Bool := g.flags.contains name

/-- With an option and its value. -/
def withValue (g : Given) (grammar : Grammar) (name value : String) : Except Stop Given :=
  match grammar.options.lookup name with
  | none => .error .misuse
  | some kind =>
    if (g.value? name).isSome || !kind.takes value then .error .misuse
    else .ok { g with values := (name, value) :: g.values }

/-- With an option without a value. -/
def withFlag (g : Given) (grammar : Grammar) (name : String) : Except Stop Given :=
  if name = "help" then .error .help
  else if name = "version" && grammar.hasVersion then .error .version
  else if !grammar.flags.contains name || g.has name then .error .misuse
  else .ok { g with flags := name :: g.flags }

/-- With a file. -/
def withFile (g : Given) (grammar : Grammar) (file : String) : Except Stop Given :=
  if !grammar.hasFile || g.file.isSome || file.isEmpty then .error .misuse
  else .ok { g with file := some file }

end Given

/-- An argument, as far as its form says what it is. -/
inductive Form where
  /-- Two dashes alone. -/
  | endOfOptions
  /-- A name after two dashes, perhaps with a value after an equals sign. -/
  | long (name : String) (value : Option String)
  /-- A letter after one dash, and what follows it. -/
  | short (letter : Char) (rest : List Char)
  /-- Anything else. -/
  | plain
deriving DecidableEq

/-- The form of an argument. -/
def Form.of (arg : String) : Form :=
  match arg.toList with
  | ['-', '-'] => .endOfOptions
  | '-' :: '-' :: cs =>
    let name := String.ofList (cs.takeWhile (· ≠ '='))
    match cs.dropWhile (· ≠ '=') with
    | [] => .long name none
    | _ :: value => .long name (some (String.ofList value))
  | '-' :: c :: cs => .short c cs
  | _ => .plain

/-- What a step of the reading gives. -/
inductive Step where
  /-- The argument is done. -/
  | done (g : Given)
  /-- The argument is an option, and the next argument is its value. -/
  | valueOf (name : String)

/-- Reads letters after one dash. -/
def readLetters (grammar : Grammar) (g : Given) : Char → List Char → Except Stop Step
  | c, cs =>
    match grammar.letters.lookup c with
    | some name =>
      match cs with
      | [] => .ok (.valueOf name)
      | '=' :: value => (g.withValue grammar name (String.ofList value)).map .done
      | value => (g.withValue grammar name (String.ofList value)).map .done
    | none =>
      if c = 'h' then .error .help
      else if c = 'V' && grammar.hasVersion then .error .version
      else .error .misuse

/-- Reads a name after two dashes. -/
def readName (grammar : Grammar) (g : Given) (name : String) (value : Option String) :
    Except Stop Step :=
  match (grammar.options.lookup name).isSome, value with
  | true, some value => (g.withValue grammar name value).map .done
  | true, none => .ok (.valueOf name)
  | false, some _ => .error .misuse
  | false, none => (g.withFlag grammar name).map .done

/-- What comes of the arguments up to the first one that is neither an option nor the value of
one: what was given, whether the options have been ended, and the arguments from that one on. -/
def readOptions (grammar : Grammar) (g : Given) :
    List String → Except Stop (Given × Bool × List String)
  | [] => .ok (g, false, [])
  | arg :: rest =>
    match Form.of arg with
    | .plain => .ok (g, false, arg :: rest)
    | .endOfOptions => .ok (g, true, rest)
    | .long name value => do
      match ← readName grammar g name value with
      | .done g => readOptions grammar g rest
      | .valueOf name =>
        match rest with
        | [] => throw .misuse
        | value :: rest =>
          if Form.of value = .plain then
            readOptions grammar (← g.withValue grammar name value) rest
          else throw .misuse
    | .short c cs => do
      match ← readLetters grammar g c cs with
      | .done g => readOptions grammar g rest
      | .valueOf name =>
        match rest with
        | [] => throw .misuse
        | value :: rest =>
          if Form.of value = .plain then
            readOptions grammar (← g.withValue grammar name value) rest
          else throw .misuse

/-- Reads all arguments after the name of an action. Every turn reads one argument at least. -/
def readAll (grammar : Grammar) : Nat → Given → List String → Except Stop Given
  | 0, g, _ => .ok g
  | turns + 1, g, args => do
    match ← readOptions grammar g args with
    | (g, false, []) => return g
    | (g, false, file :: rest) => readAll grammar turns (← g.withFile grammar file) rest
    | (g, true, rest) => rest.foldlM (fun g file ↦ g.withFile grammar file) g

/-- What the arguments after the name of an action ask for. -/
def actionOf (name : String) (g : Given) : Option Action :=
  match name, g.file with
  | "blocks", _ => some (.blocks ((g.value? "category").bind Category.ofTag?))
  | "validate", some file => some (.validate file (g.has "json"))
  | "compile", some file => some (.compile file (g.value? "output"))
  | "deploy", some file => some (.deploy file (g.has "overwrite") (g.value? "expected-sha"))
  | "undeploy", some file => some (.undeploy file)
  | "run", some file => some (.run file (g.value? "ref"))
  | "watch", some file => ((g.value? "run-id").bind number?).map (.watch file ·)
  | _, _ => none

/-- Where the options are kept unless someone says otherwise. -/
def defaultConfig : String := "flowctl.json"

/-- What help is asked for: for nothing, or for an action. -/
def helpFor : List String → Stop
  | [] => .help
  | [name] => if (grammar? name).isSome || name = "help" then .help else .misuse
  | _ => .misuse

/-- What the arguments ask for. -/
def Order.ofArguments (args : List String) : Except Stop Order := do
  match ← readOptions rootGrammar default args with
  | (root, false, name :: rest) =>
    if name = "help" then throw (helpFor rest)
    match grammar? name with
    | none => throw .misuse
    | some grammar =>
      let given ← readAll grammar (rest.length + 1) default rest
      match actionOf name given with
      | none => throw .misuse
      | some action =>
        let config := (given.value? "config").or (root.value? "config")
        return { config := config.getD defaultConfig, action }
  | _ => throw .misuse

end Blockflow.Command
