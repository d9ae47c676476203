import TraitDoc.Text.Digit
import TraitDoc.Text.Quoted
import TraitDoc.Text.Split
/-!
# The command line

The program takes the path of a project and a few switches, in any order.

A word that begins with a dash is a switch, unless it is a dash alone, a
negative number, or unknown with a space in it; after the first `--` no word is
a switch. A long switch can be cut short as long as it stays the only one, and
what follows an equals sign is its argument. Short switches can share one dash.

First every word is classified, which fails where a word could be several
switches. Then the words take effect one after the other, up to the first that
asks for help or cannot be understood; words that have no place are collected
and refused at the end.

## Main definitions

* `CommandLine.Switch`, `CommandLine.Word`, `CommandLine.classify` — words.
* `CommandLine.LogFile`, `CommandLine.Request`, `CommandLine.parse` — what the
  words ask for.
* `CommandLine.usage`, `CommandLine.help`, `CommandLine.Misuse.message` — texts.
-/

namespace TraitDoc.CommandLine

/-! ## Switches -/

/-- What a switch is for. -/
inductive Switch
  | help
  | verbose
  | dryRun
  | logFile
deriving DecidableEq, Repr

/-- The spellings of switches. -/
def spellings : List (Text × Switch) :=
  [("-h".toList, .help), ("--help".toList, .help), ("-v".toList, .verbose),
   ("--verbose".toList, .verbose), ("--dry-run".toList, .dryRun),
   ("--log-file".toList, .logFile)]

/-- All spellings of a switch, as a message shows them. -/
def Switch.name : Switch → Text
  | .help => "-h/--help".toList
  | .verbose => "-v/--verbose".toList
  | .dryRun => "--dry-run".toList
  | .logFile => "--log-file".toList

/-- Whether a switch takes an argument. -/
def Switch.takesArgument : Switch → Bool
  | .logFile => true
  | _ => false

/-! ## Faults -/

/-- Why the words cannot be understood. -/
inductive Misuse
  /-- A word could be any of several switches. -/
  | ambiguous (word : Text) (candidates : List Text)
  /-- A switch without its argument. -/
  | noArgument (switch : Switch)
  /-- A switch with an argument that it does not take. -/
  | argument (switch : Switch) (given : Text)
  /-- Words that have no place. -/
  | unknown (words : List Text)
deriving DecidableEq, Repr

/-- The fault in words. -/
def Misuse.message : Misuse → Text
  | .ambiguous word candidates =>
    "ambiguous option: ".toList ++ word ++ " could match ".toList ++
      List.intercalate ", ".toList candidates
  | .noArgument switch =>
    "argument ".toList ++ switch.name ++ ": expected one argument".toList
  | .argument switch given =>
    "argument ".toList ++ switch.name ++ ": ignored explicit argument ".toList ++ given.quoted
  | .unknown words => "unrecognized arguments: ".toList ++ Text.joinWith ' ' words

/-! ## Words -/

/-- A word of the command line. -/
inductive Word
  /-- A word that is no switch. -/
  | plain (text : Text)
  /-- The first `--`, after which no word is a switch. -/
  | mark
  /-- A switch, with the argument that is part of the word, and whether it has a single dash. -/
  | switch (switch : Switch) (isShort : Bool) (argument : Option Text)
  /-- A word that looks like a switch and is none. -/
  | stray (text : Text)
deriving DecidableEq, Repr

/-- The word that ends the switches. -/
def markText : Text := ['-', '-']

/-- The part of a word before its first equals sign, and the part after it if it has one. -/
def cut (word : Text) : Text × Option Text :=
  let before := word.takeWhile (· != '=')
  (before, if before.length < word.length then some (word.drop (before.length + 1)) else none)

/-- Whether the text is digits, with a point before at least one of them or without any point. -/
def isNumber (s : Text) : Bool :=
  let whole := s.takeWhile isDecimalDigit
  match s.drop whole.length with
  | [] => !whole.isEmpty
  | '.' :: fraction => !fraction.isEmpty && fraction.all isDecimalDigit
  | _ => false

/-- Whether a word that is no known switch is no switch at all. -/
def isPlain (word : Text) : Bool :=
  isNumber (if word.getLast? = some '\n' then word.tail.dropLast else word.tail) ||
    word.contains ' '

/-- What a word is that stands before the first `--`. -/
def word (text : Text) : Except Misuse Word :=
  match text with
  | '-' :: second :: rest =>
    let (name, argument) := cut text
    match spellings.lookup text, spellings.lookup name with
    | some switch, _ => .ok (.switch switch (second != '-') none)
    | none, some switch => .ok (.switch switch (second != '-') argument)
    | none, none =>
      if second = '-' then
        match spellings.filter fun s => name.isPrefixOf s.1 with
        | [(_, switch)] => .ok (.switch switch false argument)
        | [] => .ok (if isPlain text then .plain text else .stray text)
        | several => .error (.ambiguous text (several.map Prod.fst))
      else
        match spellings.lookup ['-', second] with
        | some switch => .ok (.switch switch true (some rest))
        | none => .ok (if isPlain text then .plain text else .stray text)
  | _ => .ok (.plain text)

/-- What the words are. -/
def classify : List Text → Except Misuse (List Word)
  | [] => .ok []
  | text :: rest =>
    if text = markText then .ok (.mark :: rest.map .plain)
    else do
      let first ← word text
      return first :: (← classify rest)

/-! ## What the words ask for -/

/-- What the words say of a file for the journal. -/
inductive LogFile
  /-- Nothing. -/
  | absent
  | named (name : Text)
  /-- That there is one, but not which. -/
  | nameless
deriving DecidableEq, Repr

/-- The file that an argument in the word of the switch names, where a mark that ends switches names none. -/
def LogFile.ofArgument (argument : Text) : LogFile :=
  if argument = markText then .nameless else .named argument

/-- The file that is named. -/
def LogFile.name? : LogFile → Option Text
  | .named name => some name
  | _ => none

/-- What the words ask for, as far as they have taken effect. -/
structure Options where
  path : Option Text := none
  verbose : Bool := false
  dryRun : Bool := false
  logFile : LogFile := .absent
  /-- The words that have no place. -/
  strays : List Text := []
deriving DecidableEq, Repr

/-- What the command line asks for. -/
inductive Request
  | help
  | run (path : Text) (verbose dryRun : Bool) (logFile : LogFile)
deriving DecidableEq, Repr

/-- The switches that share a dash: `first` and those that the argument spells. -/
def cluster (first : Switch) : Text → Except Misuse (List Switch)
  | [] => .ok [first]
  | c :: rest => do
    match spellings.lookup ['-', c] with
    | none => throw (.argument first (c :: rest))
    | some next => return first :: (← cluster next rest)

/-- The switches that a word stands for, none of which takes an argument. -/
def switches (switch : Switch) (isShort : Bool) : Option Text → Except Misuse (List Switch)
  | none => .ok [switch]
  | some argument =>
    if isShort && !argument.isEmpty then cluster switch argument
    else .error (.argument switch argument)

/-- The options after switches without arguments, nothing where one of them asks for help. -/
def Options.set (o : Options) : List Switch → Option Options
  | [] => some o
  | .help :: _ => none
  | .verbose :: rest => { o with verbose := true }.set rest
  | .dryRun :: rest => { o with dryRun := true }.set rest
  | .logFile :: rest => o.set rest

/-- The options with one more word that has no place. -/
def Options.addStray (o : Options) (text : Text) : Options := { o with strays := o.strays ++ [text] }

/-- What the options ask for once all words have taken effect. -/
def Options.finish (o : Options) : Except Misuse Request :=
  if o.strays.isEmpty then .ok (.run (o.path.getD ['.']) o.verbose o.dryRun o.logFile)
  else .error (.unknown o.strays)

/-- What the words ask for, given the options so far. -/
def interpret (o : Options) : List Word → Except Misuse Request
  | [] => o.finish
  | .plain text :: .mark :: rest =>
    if o.path.isNone then interpret { o with path := some text } rest
    else interpret ((o.addStray text).addStray markText) rest
  | .plain text :: rest =>
    if o.path.isNone then interpret { o with path := some text } rest
    else interpret (o.addStray text) rest
  | .mark :: rest =>
    if o.path.isNone then interpret o rest else interpret (o.addStray markText) rest
  | .stray text :: rest => interpret (o.addStray text) rest
  | .switch .logFile _ (some argument) :: rest =>
    interpret { o with logFile := .ofArgument argument } rest
  | .switch .logFile _ none :: .plain argument :: rest =>
    interpret { o with logFile := .named argument } rest
  | .switch .logFile _ none :: _ => .error (.noArgument .logFile)
  | .switch switch isShort argument :: rest => do
    match o.set (← switches switch isShort argument) with
    | none => return .help
    | some o => interpret o rest

/-- What a command line asks for. -/
def parse (arguments : List Text) : Except Misuse Request := do
  interpret {} (← classify arguments)

/-! ## Texts -/

/-- The line that shows how the program is called. -/
def usage : Text :=
  "usage: tagdoc [-h] [-v] [--dry-run] [--log-file LOG_FILE] [path]\n".toList

/-- The text that explains the program. -/
def help : Text :=
  usage ++ ("\nPort Java tag annotation sources to Scala files for scaladoc.\n" ++
    "\npositional arguments:\n" ++
    "  path                 Project root holding the sources and .tagdoc.yml\n" ++
    "                       (defaults to current directory).\n" ++
    "\noptions:\n" ++
    "  -h, --help           show this help message and exit\n" ++
    "  -v, --verbose        Increase log verbosity for troubleshooting.\n" ++
    "  --dry-run            Render every file and list the outputs without writing\n" ++
    "                       them.\n" ++
    "  --log-file LOG_FILE  Also write log records to this file.\n").toList

/-- What is printed where the words cannot be understood. -/
def complaint (misuse : Misuse) : Text :=
  usage ++ "tagdoc: error: ".toList ++ misuse.message ++ ['\n']

end TraitDoc.CommandLine
