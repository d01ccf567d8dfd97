import VersionedApi.Document.Format

/-!
# Arguments

The first argument names a command and the others are its options.  An option
is a word behind two dashes or a letter behind one; its value follows it as the
next argument, or in the same one behind an equals sign.  Anything else makes
the arguments unusable.
-/

namespace VersionedApi.CommandLine

open VersionedApi.Document

inductive Command where
  | generate (model output : Option String) (format : Option Format)
  | validate (model : String)
  | inspect (model : String) (format : Format)
  | init (force : Bool)
  deriving Repr, DecidableEq

/-! ## Options -/

structure OptionSpec where
  word : String
  letter : Option Char
  /-- The values that it takes, or nothing if it stands alone. -/
  accepts : Option (String → Bool)

structure Given where
  word : String
  value : String
  deriving Repr, DecidableEq

/-- Whether an argument can be the value of the option before it. -/
def isValue (argument : String) : Bool :=
  argument == "-" || argument.toList.head? != some '-'

/-- What an argument says: which option it is, and perhaps its value. -/
inductive Argument where
  | option (spec : OptionSpec) (value : Option String)
  | unusable

/-- The text behind an equals sign at its beginning, or all of it. -/
def dropEquals : List Char → List Char
  | '=' :: rest => rest
  | text => text

def Argument.recognize (specs : List OptionSpec) (argument : String) : Argument :=
  match argument.toList with
  | '-' :: '-' :: text =>
    let word := String.ofList (text.takeWhile (· ≠ '='))
    match specs.find? (·.word == word), text.dropWhile (· ≠ '=') with
    | none, _ => .unusable
    | some spec, [] => .option spec none
    | some spec, _ :: value =>
      if spec.accepts.isSome then .option spec (some (String.ofList value)) else .unusable
  | '-' :: letter :: text =>
    match specs.find? (·.letter == some letter) with
    | none => .unusable
    | some spec =>
      .option spec (if text.isEmpty then none else some (String.ofList (dropEquals text)))
  | _ => .unusable

def givenOptions? (specs : List OptionSpec) : List String → Option (List Given)
  | [] => some []
  | ["--"] => some []
  | argument :: rest =>
    match Argument.recognize specs argument with
    | .unusable => none
    | .option spec (some value) =>
      (givenOptions? specs rest).map (⟨spec.word, value⟩ :: ·)
    | .option spec none =>
      if spec.accepts.isNone then (givenOptions? specs rest).map (⟨spec.word, ""⟩ :: ·)
      else
        match rest with
        | [] => none
        | value :: rest =>
          if isValue value then (givenOptions? specs rest).map (⟨spec.word, value⟩ :: ·)
          else none

/-- Whether no option is given twice and every value is taken. -/
def areAccepted (specs : List OptionSpec) (given : List Given) : Bool :=
  (given.map (·.word)).Nodup &&
    given.all fun item =>
      specs.all fun spec =>
        spec.word != item.word || spec.accepts.all fun accepts => accepts item.value

def options? (specs : List OptionSpec) (arguments : List String) : Option (List Given) :=
  (givenOptions? specs arguments).filter (areAccepted specs)

def valueOf? (given : List Given) (word : String) : Option String :=
  (given.find? (·.word == word)).map (·.value)

/-! ## Commands -/

def modelOption : OptionSpec :=
  ⟨"model", some 'm', some (!·.isEmpty)⟩

def outputOption : OptionSpec :=
  ⟨"output", some 'o', some (!·.isEmpty)⟩

def formatOption : OptionSpec :=
  ⟨"format", none, some fun value => value = "json" || value = "yaml"⟩

def forceOption : OptionSpec :=
  ⟨"force", none, none⟩

def formatOfValue (value : String) : Format :=
  if value = "json" then .json else .yaml

/-- What arguments ask for, if they are usable. -/
def Command.ofArguments? : List String → Option Command
  | "generate" :: arguments =>
    (options? [modelOption, outputOption, formatOption] arguments).map fun given =>
      .generate (valueOf? given "model") (valueOf? given "output")
        ((valueOf? given "format").map formatOfValue)
  | "validate" :: arguments =>
    (options? [modelOption] arguments).bind fun given =>
      (valueOf? given "model").map .validate
  | "inspect" :: arguments =>
    (options? [modelOption, formatOption] arguments).bind fun given =>
      (valueOf? given "model").map fun model =>
        .inspect model (((valueOf? given "format").map formatOfValue).getD .yaml)
  | "init" :: arguments =>
    (options? [forceOption] arguments).map fun given =>
      .init (valueOf? given "force").isSome
  | _ => none

end VersionedApi.CommandLine
