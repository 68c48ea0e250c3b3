import ThreeAddress.CommandLine.Command

/-!
# Requests

A command line is read into a request: what is to be done, and how. Words may stand before, between
and behind flags.

## Main definitions

* `UsageError` : what is wrong with a command line.
* `Request` : what is to be done.
* `readGroup`, `readLong`, `readWords` : the flags and the other words of a command line.
* `Request.read` : the request of a command line.
-/

namespace ThreeAddress.CommandLine

/-- What is wrong with a command line. -/
inductive UsageError where
  /-- There is no such command. -/
  | unknownCommand (word : Bytes)
  /-- The dashes are not followed by a name. -/
  | badSyntax (word : Bytes)
  /-- There is no flag with this name. -/
  | unknownFlag (name : Bytes)
  /-- There is no flag with the first letter of a group. -/
  | unknownLetter (letter : UInt8) (group : Bytes)
  /-- A flag lacks its value. -/
  | missingValue (name : Bytes)
  /-- The flag of a letter lacks its value. -/
  | missingLetterValue (letter : UInt8) (group : Bytes)
  /-- A value does not suit its flag. -/
  | badValue (flag : Flag) (value : Bytes) (cause : ValueError)
  /-- A command takes another number of words. -/
  | wrongCount (wanted received : Nat)
  /-- A command takes fewer words. -/
  | tooMany (most received : Nat)
deriving Repr, DecidableEq

/-- The character that stands for a letter in complaints. A byte outside ASCII shows as the first
byte of its own encoding. -/
def shownLetter (b : UInt8) : Char :=
  if b < 0x80 then Char.ofNat b.toNat
  else if b < 0xC0 then Char.ofNat 0xC2
  else Char.ofNat 0xC3

/-- The remark about similar commands. -/
def suggestionText (word : Bytes) : Bytes :=
  match suggestions word with
  | [] => []
  | names => utf8 "\n\nDid you mean this?\n" ++ names.flatMap fun n => utf8 "\t" ++ n ++ utf8 "\n"

/-- The wording of a wrong command line. -/
def UsageError.message : UsageError → Bytes
  | unknownCommand word =>
    utf8 "unknown command " ++ Quoted.text word ++ utf8 " for " ++ Quoted.text programName
      ++ suggestionText word
  | badSyntax word => utf8 "bad flag syntax: " ++ word
  | unknownFlag name => utf8 "unknown flag: --" ++ name
  | unknownLetter letter group =>
    utf8 "unknown shorthand flag: " ++ Quoted.char (shownLetter letter) ++ utf8 " in -" ++ group
  | missingValue name => utf8 "flag needs an argument: --" ++ name
  | missingLetterValue letter group =>
    utf8 "flag needs an argument: " ++ Quoted.char (shownLetter letter) ++ utf8 " in -" ++ group
  | badValue flag value cause =>
    utf8 "invalid argument " ++ Quoted.text value ++ utf8 " for " ++ Quoted.text flag.title
      ++ utf8 " flag: " ++ cause.message
  | wrongCount wanted received =>
    utf8 "accepts " ++ decimal wanted ++ utf8 " arg(s), received " ++ decimal received
  | tooMany most received =>
    utf8 "accepts at most " ++ decimal most ++ utf8 " arg(s), received " ++ decimal received

/-- Gives a flag its value; a complaint names the flag. -/
def assign (f : Flag) (value : Bytes) (o : Options) : Except UsageError Options :=
  (f.set value o).mapError (.badValue f value)

/-- The value of a switch that is written without one. -/
def switchedOn : Bytes := utf8 "true"

/-- Words in a group of letters that start like this are passed over. -/
def passedOver : Bytes := utf8 "test."

/-- Reads a group of letters behind one dash. The answer tells whether the next word was taken as a
value. -/
def readGroup (known : List Flag) (next : Option Bytes) :
    Bytes → Options → Except UsageError (Options × Bool)
  | [], o => .ok (o, false)
  | l :: more, o =>
    if passedOver.isPrefixOf (l :: more) then .ok (o, false)
    else match known.find? fun f => f.letter? == some l with
      | none => .error (.unknownLetter l (l :: more))
      | some f =>
        if more.head? = some equalsSign ∧ 1 < more.length then do
          return (← assign f (more.drop 1) o, false)
        else if f.isSwitch then do
          readGroup known next more (← assign f switchedOn o)
        else if more ≠ [] then do
          return (← assign f more o, false)
        else match next with
          | some v => do return (← assign f v o, true)
          | none => .error (.missingLetterValue l (l :: more))

/-- Reads a flag behind two dashes. The answer tells whether the next word was taken as a value. -/
def readLong (known : List Flag) (next : Option Bytes) (word : Bytes) (o : Options) :
    Except UsageError (Options × Bool) := do
  let text := word.drop 2
  if text.head? = some dash ∨ text.head? = some equalsSign then throw (.badSyntax word)
  let name := text.takeWhile fun b => b != equalsSign
  let some f := known.find? fun f => f.name == name | throw (.unknownFlag name)
  if name.length < text.length then
    return (← assign f (text.drop (name.length + 1)) o, false)
  else if f.isSwitch then
    return (← assign f switchedOn o, false)
  else match next with
    | some v => return (← assign f v o, true)
    | none => throw (.missingValue name)

/-- Reads a command line into its flags and its other words. -/
def readWords (known : List Flag) (words : List Bytes) (o : Options) :
    Except UsageError (Options × List Bytes) :=
  match words with
  | [] => .ok (o, [])
  | w :: rest =>
    if w = endOfFlags then .ok (o, rest)
    else if w.length < 2 ∨ w.head? ≠ some dash then do
      let (o, plain) ← readWords known rest o
      return (o, w :: plain)
    else do
      let (o, taken) ←
        if (w.drop 1).head? = some dash then readLong known rest.head? w o
        else readGroup known rest.head? (w.drop 1) o
      readWords known (if taken then rest.drop 1 else rest) o
termination_by words.length
decreasing_by
  · exact Nat.lt_succ_self _
  · split
    · rw [List.length_drop, List.length_cons]
      omega
    · exact Nat.lt_succ_self _

/-- What is to be done. -/
inductive Request where
  /-- Help is to be shown. -/
  | help
  /-- The version is to be shown on a line. -/
  | programVersion
  /-- The tokens of a file are to be shown. -/
  | tokenize (path : Bytes)
  /-- A file, a directory or the project is to be built. -/
  | build (target : Option Bytes)
  /-- The version is to be shown. -/
  | version
deriving Repr, DecidableEq

namespace Request

/-- The command that a command line names, and the other words. -/
def route (args : List Bytes) : Except UsageError (Command × List Bytes) :=
  match plainWords Command.commonFlags args with
  | [] => .ok (.none, args)
  | word :: _ =>
    match Command.named.lookup word with
    | some c => .ok (c, withoutWord Command.commonFlags word args)
    | none => .error (.unknownCommand word)

/-- The request of a command with its words. -/
def ofCommand (c : Command) (words : List Bytes) : Except UsageError Request :=
  match c with
  | .none | .help | .completion => .ok help
  | .version => .ok version
  | .tokenize =>
    match words with
    | [path] => .ok (tokenize path)
    | _ => .error (.wrongCount 1 words.length)
  | .build =>
    match words with
    | [] => .ok (build none)
    | [target] => .ok (build (some target))
    | _ => .error (.tooMany 1 words.length)

/-- The request of a command line. -/
def read (args : List Bytes) : Except UsageError (Request × Options) := do
  let (c, args) ← route args
  let (o, words) ← readWords c.flags args {}
  if o.help then return (help, o)
  if o.version then return (programVersion, o)
  return (← ofCommand c words, o)

end Request

end ThreeAddress.CommandLine
