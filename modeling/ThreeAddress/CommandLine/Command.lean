import ThreeAddress.CommandLine.Flag
import ThreeAddress.Text.EditDistance
import ThreeAddress.Text.Letters

/-!
# Commands

The first plain word of a command line names the command. To find it, the values of flags have to be
passed over before it is known which flags the command has: a word with a dash takes the next word
as its value unless it holds an equals sign or is known to be a switch.

## Main definitions

* `Command`, `Command.flags` : the commands and their flags.
* `suggestions` : the commands that a misspelt word may have meant.
* `plainWords`, `withoutWord` : the words of a command line that are no flags.
-/

namespace ThreeAddress.CommandLine

/-- A command. -/
inductive Command where
  /-- No command. -/
  | none
  /-- Shows the tokens of a file. -/
  | tokenize
  /-- Compiles files. -/
  | build
  /-- Shows the version. -/
  | version
  /-- Shows help. -/
  | help
  /-- Shows how to complete command lines. -/
  | completion
deriving Repr, DecidableEq, Inhabited

/-- The name of the program. -/
def programName : Bytes := utf8 "ezc"

namespace Command

/-- The commands that have a name. -/
def named : List (Bytes × Command) :=
  [(utf8 "tokenize", tokenize), (utf8 "build", build), (utf8 "version", version),
    (utf8 "help", help), (utf8 "completion", completion)]

/-- The flags of all commands. -/
def commonFlags : List Flag :=
  [.color, .timings, .maxDiagnostics, .trace, .traceLevel, .traceMode, .traceFormat,
    .traceRingSize, .cpuProfile, .memProfile, .runtimeTrace]

/-- The flags of a command. -/
def flags : Command → List Flag
  | none => commonFlags ++ [.help, .version]
  | tokenize => commonFlags ++ [.format, .help]
  | build => commonFlags ++ [.out, .jobs, .ui, .noCache, .help]
  | version => commonFlags ++ [.format, .help]
  | help | completion => commonFlags ++ [.help]

end Command

/-- The largest distance of a suggestion from a word. -/
def suggestionDistance : Nat := 2

/-- The commands that a misspelt word may have meant: those it is close to and those it begins.
Help is not suggested. -/
def suggestions (word : Bytes) : List Bytes :=
  let w := Letters.lower word
  (Command.named.filter fun (name, c) =>
    c != .help &&
      (EditDistance.distance w name ≤ suggestionDistance || w.isPrefixOf name)).map Prod.fst

/-- The dash in front of flags. -/
def dash : UInt8 := '-'.toUInt8

/-- The sign between a flag and its value. -/
def equalsSign : UInt8 := '='.toUInt8

/-- The word that ends the flags. -/
def endOfFlags : Bytes := [dash, dash]

/-- Tests whether a word is a flag that takes the next word as its value. -/
def takesNext (known : List Flag) (word : Bytes) : Bool :=
  !word.contains equalsSign && match word with
    | d :: e :: name =>
      if d != dash then false
      else if e == dash then
        !known.any fun f => f.isSwitch && f.name == name
      else name == [] && !known.any fun f => f.isSwitch && f.letter? == some e
    | _ => false

/-- The words that are neither flags nor their values. A flag whose value would be the last word
ends the search. -/
def plainWords (known : List Flag) : List Bytes → List Bytes
  | [] => []
  | w :: rest =>
    if w = endOfFlags then []
    else if takesNext known w then
      match rest with
      | _ :: v :: more => plainWords known (v :: more)
      | _ => []
    else if w ≠ [] ∧ w.head? ≠ some dash then w :: plainWords known rest
    else plainWords known rest

/-- Removes the first plain word that is the given one. -/
def withoutWord (known : List Flag) (word : Bytes) : List Bytes → List Bytes
  | [] => []
  | w :: rest =>
    if w = endOfFlags then w :: rest
    else if takesNext known w then
      match rest with
      | v :: more => w :: v :: withoutWord known word more
      | [] => [w]
    else if w = word then rest
    else w :: withoutWord known word rest

end ThreeAddress.CommandLine
