/-!
# Command lines

Reading the words of a command line into a command. Options may stand anywhere among the words, with
their value behind `=` or as the next word; after the word `--` no word is an option. The options
for the configuration and the store may stand before and behind the name of the command, where the
ones behind it count.
-/

namespace SkaterLedger

/-- What to do. -/
inductive Command where
  /-- List the entries of a requests file. -/
  | parse (file : String) (sectionName : Option String)
  /-- Import a requests file for a competition. -/
  | importFile (file competition : String) (sectionName : Option String)
  /-- Write the entries of a requests file as a sheet. -/
  | exportSheet (file output : String) (sectionName : Option String)
  /-- Look for duplicates and write a deletion plan. -/
  | investigate (out : Option String)
  /-- Carry out a deletion plan. -/
  | cleanup (plan : Option String)
  /-- Look contacts up among the skaters, and write what follows if asked to. -/
  | validateContacts (csv : String) (execute : Bool)
  /-- Back up all tables. -/
  | backup (out : Option String)
deriving DecidableEq, Repr

/-- A command with what holds for all commands. -/
structure Invocation where
  /-- The path of the configuration file. -/
  configPath : Option String
  /-- The path of the store. -/
  dbPath : Option String
  /-- What to do. -/
  command : Command
deriving DecidableEq, Repr

/-- Why a command line names no command to run. -/
inductive Refusal where
  /-- It is not well-formed. -/
  | usage
  /-- It asks for help. -/
  | help
  /-- It asks for the version. -/
  | version
deriving DecidableEq, Repr

namespace Arguments

/-- What an option takes. -/
inductive OptionKind where
  /-- A path, which is not empty. -/
  | path
  /-- Any text. -/
  | text
  /-- Nothing. -/
  | switch
deriving DecidableEq, Repr

/-- The options and places that the words of a command have. -/
structure Grammar where
  /-- The options, by the name behind the dashes. -/
  options : List (String × OptionKind)
  /-- The places for other words; `true` stands for a path. -/
  places : List Bool
deriving DecidableEq, Repr

/-- The options that hold for all commands. -/
def globalOptions : List (String × OptionKind) := [("config", .path), ("db", .path)]

/-- The commands and their grammars. -/
def grammars : List (String × Grammar) :=
  [("parse", ⟨("section", .text) :: globalOptions, [true]⟩),
    ("import", ⟨("section", .text) :: globalOptions, [true, false]⟩),
    ("export", ⟨("section", .text) :: globalOptions, [true, true]⟩),
    ("investigate", ⟨("out", .path) :: globalOptions, []⟩),
    ("cleanup", ⟨("plan", .path) :: globalOptions, []⟩),
    ("validate-contacts", ⟨("execute", .switch) :: globalOptions, [true]⟩),
    ("backup", ⟨("out", .path) :: globalOptions, []⟩)]

/-- What is known between two words. -/
structure State where
  /-- The options seen, with their values. -/
  options : List (String × String)
  /-- The words in places, in order. -/
  places : List String
  /-- The option that the next word is the value of. -/
  pending : Option (String × OptionKind)
  /-- Whether the word `--` was seen. -/
  onlyPlaces : Bool
deriving DecidableEq, Repr

/-- The state before the first word. -/
def State.start : State := ⟨[], [], none, false⟩

/-- Takes the value of an option, which may stand only once. -/
def State.give (s : State) (name : String) (kind : OptionKind) (value : String) :
    Except Refusal State :=
  if (s.options.lookup name).isSome || (kind == .path && value.isEmpty) then .error .usage
  else .ok { s with options := s.options ++ [(name, value)], pending := none }

/-- Takes a word into the next place. -/
def State.place (g : Grammar) (s : State) (word : String) : Except Refusal State :=
  match g.places.drop s.places.length with
  | [] => .error .usage
  | isPath :: _ =>
    if isPath && word.isEmpty then .error .usage
    else .ok { s with places := s.places ++ [word] }

/-- The name of an option and the value behind `=`. -/
def splitOption (cs : List Char) : String × Option String :=
  let name := String.ofList (cs.takeWhile (· != '='))
  match cs.dropWhile (· != '=') with
  | [] => (name, none)
  | _ :: value => (name, some (String.ofList value))

/-- Takes an option with two dashes. -/
def State.takeOption (g : Grammar) (version : Bool) (s : State) (cs : List Char) :
    Except Refusal State :=
  let (name, value) := splitOption cs
  if name == "help" then .error (if value.isSome then .usage else .help)
  else if version && name == "version" then .error (if value.isSome then .usage else .version)
  else
    match g.options.lookup name, value with
    | none, _ => .error .usage
    | some .switch, some _ => .error .usage
    | some .switch, none => s.give name .switch ""
    | some kind, some value => s.give name kind value
    | some kind, none =>
      if (s.options.lookup name).isSome then .error .usage
      else .ok { s with pending := some (name, kind) }

/-- The refusal of the letters behind one dash: only those for help and version mean something. -/
def refusalOfLetters (version : Bool) : List Char → Refusal
  | 'h' :: _ => .help
  | 'V' :: _ => if version then .version else .usage
  | _ => .usage

/-- Reads words up to the first one that is neither an option nor in a place, or to the end. Only
before the command's name does a word ask for the version. -/
def readWords (g : Grammar) (version : Bool) (s : State) :
    List String → Except Refusal (State × List String)
  | [] => if s.pending.isSome then .error .usage else .ok (s, [])
  | word :: words =>
    match s.pending, s.onlyPlaces, word.toList with
    | some _, _, '-' :: _ :: _ => .error .usage
    | some (name, kind), _, _ => do readWords g version (← s.give name kind word) words
    | none, false, ['-', '-'] => readWords g version { s with onlyPlaces := true } words
    | none, false, '-' :: '-' :: cs => do readWords g version (← s.takeOption g version cs) words
    | none, false, '-' :: c :: cs => .error (refusalOfLetters version (c :: cs))
    | none, onlyPlaces, _ =>
      if version && !onlyPlaces then .ok (s, word :: words)
      else do readWords g version (← s.place g word) words

/-- The grammar before the command's name. -/
def outerGrammar : Grammar := ⟨globalOptions, []⟩

/-- The command of a name, its options, and the words in its places. -/
def commandOf? (name : String) (options : List (String × String)) :
    List String → Option Command
  | [] =>
    if name == "investigate" then some (.investigate (options.lookup "out"))
    else if name == "cleanup" then some (.cleanup (options.lookup "plan"))
    else if name == "backup" then some (.backup (options.lookup "out"))
    else none
  | [file] =>
    if name == "parse" then some (.parse file (options.lookup "section"))
    else if name == "validate-contacts" then
      some (.validateContacts file (options.lookup "execute").isSome)
    else none
  | [file, second] =>
    if name == "import" then some (.importFile file second (options.lookup "section"))
    else if name == "export" then some (.exportSheet file second (options.lookup "section"))
    else none
  | _ => none

/-- The refusal of the words behind the name `help`: at most one command may be named there. -/
def helpOf : List String → Refusal
  | [] => .help
  | ["help"] => .help
  | [name] => if (grammars.lookup name).isSome then .help else .usage
  | _ => .usage

/-- Reads the words of a command line. -/
def read (words : List String) : Except Refusal Invocation := do
  let (outer, rest) ← readWords outerGrammar true .start words
  match rest with
  | [] => .error .usage
  | name :: rest =>
    if name == "help" then .error (helpOf rest)
    else
      match grammars.lookup name with
      | none => .error .usage
      | some g =>
        let (s, _) ← readWords g false .start rest
        let fromEither (option : String) :=
          (s.options.lookup option).or (outer.options.lookup option)
        match commandOf? name s.options s.places with
        | none => .error .usage
        | some command => .ok ⟨fromEither "config", fromEither "db", command⟩

end Arguments

end SkaterLedger
