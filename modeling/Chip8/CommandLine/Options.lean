import Chip8.Decimal.Read
import Chip8.Text.Lines
import Chip8.Text.Quoted
/-!
The command line: one program image and some options. Arguments are first told apart into options
and words, and then consumed from left to right. A long option may be shortened as long as only one
fits, and may hold its value after an equals sign; after two dashes everything is a word.
-/

namespace Chip8.CommandLine

/-- The value that an option was given. Two dashes after its equals sign divide the arguments even
    there, so that no value is left. -/
inductive Setting (α : Type) where
  | value (a : α)
  | emptied

/-- What the program was asked to do. -/
structure Options where
  rom : String
  config : Option (Setting String) := none
  disassemble : Bool := false
  headless : Bool := false
  seconds : Setting Decimal.Numeral := .value (.number 5.0)
  strict : Bool := false
  trace : Bool := false
  debug : Bool := false

/-- The options. -/
inductive Flag where
  | help
  | config
  | disassemble
  | headless
  | seconds
  | strict
  | trace
  | debug
  deriving DecidableEq, Repr

/-- The spellings of the options, in the order in which they are compared. -/
def spellings : List (String × Flag) := [
  ("-h", .help), ("--help", .help), ("--config", .config), ("--disasm", .disassemble),
  ("--headless", .headless), ("--seconds", .seconds), ("--strict", .strict), ("--trace", .trace),
  ("--debug", .debug)]

/-- How an option is named in messages. -/
def Flag.title : Flag → String
  | help => "-h/--help"
  | config => "--config"
  | disassemble => "--disasm"
  | headless => "--headless"
  | seconds => "--seconds"
  | strict => "--strict"
  | trace => "--trace"
  | debug => "--debug"

/-- Does the option take a value? -/
def Flag.takesValue : Flag → Bool
  | config => true
  | seconds => true
  | _ => false

/-- Why the arguments were not accepted. -/
inductive UsageError where
  /-- Help was asked for; that is not an error, but it ends the program. -/
  | helpWanted
  | ambiguous (argument : String) (matching : List String)
  | valueMissing (flag : Flag)
  | valueIgnored (flag : Flag) (value : String)
  | badNumber (text : String)
  | romMissing
  | unknown (arguments : List String)
  deriving DecidableEq, Repr

/-- The sentence about arguments that were not accepted. -/
def UsageError.reason : UsageError → String
  | helpWanted => ""
  | ambiguous argument matching =>
    "ambiguous option: " ++ argument ++ " could match " ++ ", ".intercalate matching
  | valueMissing flag => "argument " ++ flag.title ++ ": expected one argument"
  | valueIgnored flag value =>
    "argument " ++ flag.title ++ ": ignored explicit argument " ++ Text.quoted value
  | badNumber text => "argument --seconds: invalid float value: " ++ Text.quoted text
  | romMissing => "the following arguments are required: rom"
  | unknown arguments => "unrecognized arguments: " ++ " ".intercalate arguments

/-- The line that ends the program's complaint; there is none if help was asked for. -/
def UsageError.message (e : UsageError) : String :=
  match e with
  | helpWanted => ""
  | e => "pychip8: error: " ++ e.reason

/-- The last line of the complaint, which is what a caller is left with. -/
def UsageError.summary (e : UsageError) : String := Text.lastLine e.message

/-- The exit code. -/
def UsageError.code : UsageError → Nat
  | helpWanted => 0
  | _ => 2

/-! ## Telling arguments apart -/

/-- What an argument is taken for. -/
inductive Kind where
  | word
  /-- The two dashes after which everything is a word. -/
  | divider
  /-- An option and the value in the same argument: after an equals sign, or joined to a short
      spelling. -/
  | option (flag : Flag) (spelling : String) (value : Option String)
  /-- Something that looks like an option and is none. -/
  | unknownOption
  deriving DecidableEq, Repr

/-- The text before the first equals sign and the text after it. -/
def splitEquals (arg : List Char) : String × Option String :=
  let before := arg.takeWhile (· != '=')
  match arg.drop before.length with
  | _ :: value => (String.ofList before, some (String.ofList value))
  | [] => (String.ofList before, none)

/-- Options that an argument could be short for. After a single dash the second character decides,
    and what follows it is a value. -/
def candidates (arg : List Char) : List Kind :=
  match arg with
  | '-' :: '-' :: _ =>
    let (stem, value) := splitEquals arg
    spellings.filterMap fun (spelling, flag) =>
      if stem.toList.isPrefixOf spelling.toList then some (.option flag spelling value) else none
  | '-' :: c :: rest =>
    spellings.filterMap fun (spelling, flag) =>
      if spelling == String.ofList ['-', c] then
        some (.option flag spelling (some (String.ofList rest)))
      else if arg.isPrefixOf spelling.toList then some (.option flag spelling none)
      else none
  | _ => []

/-- Is the argument a negative number, such as `-1` or `-.5`? -/
def isNegativeNumber (arg : List Char) : Bool :=
  let isDigit (c : Char) : Bool := (Text.digitValue? c).isSome
  match arg with
  | '-' :: body =>
    let rest := body.dropWhile isDigit
    match rest with
    | [] => !body.isEmpty
    | ['\n'] => body.length != 1
    | '.' :: places => !places.isEmpty && (places.dropWhile isDigit).all (· == '\n') &&
        !(places.takeWhile isDigit).isEmpty && (places.dropWhile isDigit).length ≤ 1
    | _ => false
  | _ => false

/-- What one argument is taken for, before any divider. -/
def classify (arg : String) : Except UsageError Kind :=
  let cs := arg.toList
  if cs.head? != some '-' then .ok .word
  else
    match spellings.lookup arg with
    | some flag => .ok (.option flag arg none)
    | none =>
      if cs.length = 1 then .ok .word
      else
        let (stem, value) := splitEquals cs
        match spellings.lookup stem, value with
        | some flag, some value => .ok (.option flag stem (some value))
        | _, _ =>
          match candidates cs with
          | [kind] => .ok kind
          | [] =>
            if isNegativeNumber cs || cs.contains ' ' then .ok .word else .ok .unknownOption
          | several => .error (.ambiguous arg (several.filterMap fun
              | .option _ spelling _ => some spelling
              | _ => none))

/-- Arguments with what they are taken for. -/
def classifyAll : List String → Except UsageError (List (String × Kind))
  | [] => .ok []
  | arg :: rest =>
    if arg == "--" then .ok ((arg, .divider) :: rest.map (·, .word))
    else do
      let kind ← classify arg
      return (arg, kind) :: (← classifyAll rest)

/-! ## Consuming them -/

/-- What was consumed so far: the options, whether the image was named, and what nobody took. -/
structure Progress where
  options : Options := ⟨"", none, false, false, .value (.number 5.0), false, false, false⟩
  named : Bool := false
  extras : List String := []

/-- Note an option without a value. -/
def raise (o : Options) : Flag → Options
  | .disassemble => { o with disassemble := true }
  | .headless => { o with headless := true }
  | .strict => { o with strict := true }
  | .trace => { o with trace := true }
  | .debug => { o with debug := true }
  | _ => o

/-- Give an option its value. -/
def assign (o : Options) (flag : Flag) (value : String) : Except UsageError Options :=
  match flag with
  | .config => .ok { o with config := some (.value value) }
  | .seconds =>
    match Decimal.numeral? value with
    | some x => .ok { o with seconds := .value x }
    | none => .error (.badNumber value)
  | _ => .ok o

/-- Leave an option without its value. -/
def empty (o : Options) : Flag → Options
  | .config => { o with config := some .emptied }
  | .seconds => { o with seconds := .emptied }
  | _ => o

/-- Letters joined to `-h`: more of the same may follow, anything else is refused. -/
def joinedHelp : List Char → UsageError
  | [] => .helpWanted
  | 'h' :: rest => joinedHelp rest
  | rest => .valueIgnored .help (String.ofList rest)

/-- Is the spelling a single dash and a letter? -/
def isShort (spelling : String) : Bool := spelling.length == 2

/-- Consume an option; a value that is not in the same argument is the next word. -/
def takeOption (o : Options) (flag : Flag) (spelling : String) (value : Option String)
    (rest : List (String × Kind)) : Except UsageError (Options × List (String × Kind)) :=
  match value with
  | some value =>
    if flag.takesValue then
      if value == "--" then .ok (empty o flag, rest) else (·, rest) <$> assign o flag value
    else if isShort spelling && !value.isEmpty then .error (joinedHelp value.toList)
    else .error (.valueIgnored flag value)
  | none =>
    if flag.takesValue then
      match rest with
      | (value, .word) :: rest => (·, rest) <$> assign o flag value
      | _ => .error (.valueMissing flag)
    else if flag = .help then .error .helpWanted
    else .ok (raise o flag, rest)

/-- The words and dividers at the front. -/
def leadingWords (args : List (String × Kind)) : List (String × Kind) :=
  args.takeWhile fun (_, kind) => kind == .word || kind == .divider

/-- How many of the words at the front name the image: one, and a divider on either side of it. -/
def romLength : List (String × Kind) → Nat
  | (_, .divider) :: (_, .word) :: _ => 2
  | (_, .word) :: (_, .divider) :: _ => 2
  | (_, .word) :: _ => 1
  | _ => 0

/-- The word among those that name the image: the first divider does not count. -/
def romName (args : List (String × Kind)) : String :=
  match args with
  | ("--", _) :: (name, _) :: _ => name
  | (name, _) :: _ => name
  | [] => ""

/-- Consume the arguments from left to right. The fuel bounds their number. -/
def consume : Nat → Progress → List (String × Kind) → Except UsageError Progress
  | 0, p, _ => .ok p
  | _, p, [] => .ok p
  | fuel + 1, p, (arg, kind) :: rest =>
    match kind with
    | .option flag spelling value => do
      let (options, rest) ← takeOption p.options flag spelling value rest
      consume fuel { p with options } rest
    | .unknownOption => consume fuel { p with extras := p.extras ++ [arg] } rest
    | _ =>
      let words := leadingWords ((arg, kind) :: rest)
      let taken := if p.named then 0 else romLength words
      let p := if taken = 0 then p else
        { p with named := true, options := { p.options with rom := romName (words.take taken) } }
      let p := { p with extras := p.extras ++ (words.drop taken).map (·.1) }
      consume fuel p (((arg, kind) :: rest).drop words.length)

/-- The options that the arguments ask for. -/
def parseOptions (argv : List String) : Except UsageError Options := do
  let args ← classifyAll argv
  let p ← consume args.length {} args
  if !p.named then throw .romMissing
  if !p.extras.isEmpty then throw (.unknown p.extras)
  return p.options

end Chip8.CommandLine
