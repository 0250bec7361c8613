import DocHarvest.Text.Digits

/-!
# Command lines

`Command.ofArguments?` reads the arguments of the program. Arguments are taken from left to right; the
first one that cannot be taken makes all of them bad, and a request for help ends the reading.
-/

namespace DocHarvest.Cli

/-- What is given on the command line for an extraction. -/
structure ExtractArguments where
  language : Option Text := none
  savePath : Option Text := none
  dataPath : Option Text := none
  shards : Option Nat := none
  workers : Option Nat := none
  /-- The file of settings. -/
  config : Option Text := none
deriving DecidableEq

/-- An option of an extraction; each takes a value. -/
inductive ExtractOption where
  | language
  | savePath
  | dataPath
  | split
  | workers
  | config
deriving DecidableEq

/-- What help is about. -/
inductive Topic where
  | program
  | extract
  | languages
  | help
deriving DecidableEq

/-- What the program is asked to do. -/
inductive Command where
  | extract (arguments : ExtractArguments)
  | languages
  | help (topic : Topic)
  | version
deriving DecidableEq

/-! ## Options -/

def ExtractOption.names : List (String × ExtractOption) :=
  [("language", language), ("save-path", savePath), ("data-path", dataPath), ("split", split),
    ("workers", workers), ("config", config)]

def ExtractOption.ofName? (name : Text) : Option ExtractOption :=
  (names.find? (·.1.toList = name)).map (·.2)

/-- A value, unless one was given before. -/
def first? {α : Type} (before : Option α) (value : Option α) : Option (Option α) :=
  match before, value with
  | none, some a => some (some a)
  | _, _ => none

/-- A path; it is not empty. -/
def path? (t : Text) : Option Text := if t.isEmpty then none else some t

/-- Puts in the value of an option, if it is of the right form and the first one. -/
def ExtractArguments.set? (a : ExtractArguments) (o : ExtractOption) (value : Text) :
    Option ExtractArguments :=
  match o with
  | .language => (first? a.language (some value)).map fun language => { a with language }
  | .savePath => (first? a.savePath (path? value)).map fun savePath => { a with savePath }
  | .dataPath => (first? a.dataPath (path? value)).map fun dataPath => { a with dataPath }
  | .split => (first? a.shards (Text.natural? value)).map fun shards => { a with shards }
  | .workers => (first? a.workers (Text.natural? value)).map fun workers => { a with workers }
  | .config => (first? a.config (path? value)).map fun config => { a with config }

/-! ## Arguments -/

/-- The form of an argument. -/
inductive Argument where
  /-- `--`, after which nothing is an option. -/
  | divider
  /-- `--name`, or `--name=value`. -/
  | long (name : Text) (value : Option Text)
  /-- `-c`, with what stands behind the character. -/
  | short (c : Char) (rest : Text)
  | word (t : Text)
deriving DecidableEq

/-- The form of an argument. A hyphen alone is a word. -/
def Argument.ofText : Text → Argument
  | ['-', '-'] => divider
  | '-' :: '-' :: t =>
    match Text.splitOnce '=' t with
    | some (name, value) => long name (some value)
    | none => long t none
  | '-' :: c :: t => short c t
  | t => word t

def Argument.isHelp : Argument → Bool
  | long name none => name = "help".toList
  | short c _ => c = 'h'
  | _ => false

def Argument.isVersion : Argument → Bool
  | long name none => name = "version".toList
  | short c _ => c = 'V'
  | _ => false

/-- The option that an argument names, with the value if it is attached. -/
def Argument.option? : Argument → Option (ExtractOption × Option Text)
  | long name value => (ExtractOption.ofName? name).map fun o => (o, value)
  | short c rest =>
    if c = 's' then
      some (.split, if rest.isEmpty then none else some ((Text.dropLead? ['='] rest).getD rest))
    else none
  | _ => none

def nextValue? : List Text → Option (Text × List Text)
  | [] => none
  | t :: args =>
    match Argument.ofText t with
    | .word t => some (t, args)
    | _ => none

/-- Reads the arguments of an extraction, `fuel` at most. -/
def readExtract? : Nat → ExtractArguments → List Text → Option Command
  | 0, _, _ => none
  | _ + 1, a, [] => some (.extract a)
  | fuel + 1, a, t :: args =>
    let argument := Argument.ofText t
    if argument = .divider then if args.isEmpty then some (.extract a) else none
    else if argument.isHelp then some (.help .extract)
    else
      match argument.option? with
      | none => none
      | some (o, some value) => (a.set? o value).bind fun a => readExtract? fuel a args
      | some (o, none) =>
        match nextValue? args with
        | none => none
        | some (value, args) => (a.set? o value).bind fun a => readExtract? fuel a args

/-- Reads the arguments behind `languages`. -/
def readLanguages? : List Text → Option Command
  | [] => some .languages
  | t :: args =>
    let argument := Argument.ofText t
    if argument.isHelp then some (.help .languages)
    else if argument = .divider && args.isEmpty then some .languages
    else none

/-- The commands that help can be about. -/
def topics : List (String × Topic) :=
  [("extract", .extract), ("languages", .languages), ("help", .help)]

/-- Reads the arguments behind `help`. -/
def readHelp? : List Text → Option Command
  | [] => some (.help .program)
  | [name] => (topics.find? (·.1.toList = name)).map fun topic => .help topic.2
  | _ => none

/-- What the arguments ask for, unless they are bad. -/
def Command.ofArguments? : List Text → Option Command
  | [] => none
  | t :: args =>
    if t = "extract".toList then readExtract? (args.length + 1) {} args
    else if t = "languages".toList then readLanguages? args
    else if t = "help".toList then readHelp? args
    else if (Argument.ofText t).isHelp then some (.help .program)
    else if (Argument.ofText t).isVersion then some .version
    else none

end DocHarvest.Cli
