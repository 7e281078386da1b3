import ProblemMatcher.File.Path

/-!
# Command line arguments

A command line names a command and gives its arguments. Options may stand before, between and behind
the arguments, until a double dash. The value of an option follows as the next word, behind an
equals sign, or, for one of a single letter, right behind the letter. In front of the command only
the option to be verbose is known, and it changes nothing.
-/

namespace ProblemMatcher

inductive Command
  /-- Report what the matchers of a file find in a sample; with names, only those matchers. -/
  | check (config sample : Path) (names : List String)
  /-- Show the matches of a pattern in a sample. -/
  | preview (pattern : String) (sample : Path) (letters : String) (inject : Bool)
  deriving Repr, DecidableEq

namespace Command

/-- The options of a command, with their dashes. -/
structure Options where
  valued : List String := []
  switches : List String := []

/-- A part of a command line. -/
inductive Part
  | value (option text : String)
  | switch (option : String)
  | argument (text : String)
  deriving Repr, DecidableEq

def isOption (word : String) : Bool :=
  word.startsWith "-" && word ≠ "-"

/-- An option and the value behind its equals sign. -/
def splitAssignment (word : List Char) : List Char × Option (List Char) :=
  let (option, rest) := word.span (· ≠ '=')
  (option, rest.tail?)

/-- What an option word means by itself, and the option that the next word is the value of. -/
abbrev Reading := List Part × Option String

/-- Reads letters behind a single dash. -/
def readLetters (o : Options) : List Char → Option Reading
  | [] => some ([], none)
  | c :: rest =>
    let option := String.ofList ['-', c]
    if o.switches.contains option then
      (readLetters o rest).map fun (parts, waiting) => (.switch option :: parts, waiting)
    else if !o.valued.contains option then none
    else if rest.isEmpty then some ([], some option)
    else some ([.value option (String.ofList rest)], none)

/-- Reads an option word. -/
def readOption (o : Options) (word : String) : Option Reading :=
  let (name, value?) := splitAssignment word.toList
  let option := String.ofList name
  if word.startsWith "--" then
    match value? with
    | some value =>
      if o.valued.contains option then some ([.value option (String.ofList value)], none) else none
    | none =>
      if o.valued.contains option then some ([], some option)
      else if o.switches.contains option then some ([.switch option], none)
      else none
  else readLetters o word.toList.tail

/-- Reads the words behind a command, of which the first may be the value of an option. -/
def readParts (o : Options) : Option String → List String → Option (List Part)
  | some _, [] => none
  | none, [] => some []
  | some option, word :: rest => (readParts o none rest).map (.value option word :: ·)
  | none, word :: rest =>
    if word = "--" then some (rest.map .argument)
    else if isOption word then
      match readOption o word with
      | some (parts, waiting) => (readParts o waiting rest).map (parts ++ ·)
      | none => none
    else (readParts o none rest).map (.argument word :: ·)

namespace Part

def argument? : Part → Option String
  | .argument text => some text
  | _ => none

/-- The value of one of some options. -/
def valueOf? (options : List String) : Part → Option String
  | .value option text => if options.contains option then some text else none
  | _ => none

end Part

def checkOptions : Options := { valued := ["--matcher", "-m"] }

def previewOptions : Options := { valued := ["--flags"], switches := ["--no-inject"] }

def checkOf (parts : List Part) : Option Command :=
  match parts.filterMap Part.argument? with
  | [config, sample] =>
    some (.check (.ofString config) (.ofString sample)
      (parts.filterMap (Part.valueOf? checkOptions.valued)))
  | _ => none

/-- Of letters given more than once the last ones count. -/
def previewOf (parts : List Part) : Option Command :=
  match parts.filterMap Part.argument? with
  | [pattern, sample] =>
    some (.preview pattern (.ofString sample)
      ((parts.filterMap (Part.valueOf? previewOptions.valued)).getLastD "")
      (!parts.contains (.switch "--no-inject")))
  | _ => none

def verboseOptions : Options := { switches := ["--verbose", "-v"] }

/-- The words from the command on. -/
def dropVerbose : List String → Option (List String)
  | [] => none
  | word :: rest =>
    if word = "--" then some rest
    else if isOption word then
      if (readOption verboseOptions word).isSome then dropVerbose rest else none
    else some (word :: rest)

/-- The command that a command line gives; nothing if it is not a proper one. -/
def parse (words : List String) : Option Command :=
  match dropVerbose words with
  | some ("check" :: rest) => (readParts checkOptions none rest).bind checkOf
  | some ("preview" :: rest) => (readParts previewOptions none rest).bind previewOf
  | _ => none

/-- The files that a command names. -/
def paths : Command → List Path
  | .check config sample _ => [config, sample]
  | .preview _ sample _ _ => [sample]

end Command

end ProblemMatcher
