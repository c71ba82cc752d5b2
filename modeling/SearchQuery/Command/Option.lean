import SearchQuery.Command.Suggestion

/-!
# Options on a command line

An option has a long name and perhaps a short one.  The value of a long option follows an equals sign or is the
next argument; the value of a short one is the rest of its argument or the next argument.  Short options without
values may be strung together.  Two dashes end the options.
-/

set_option autoImplicit false

namespace SearchQuery

structure OptionSpec (κ : Type) where
  key : κ
  long : Text
  short : Option Char
  takesValue : Bool

/-- What is wrong with an option; for an unknown one, also which options may have been meant. -/
inductive OptionFault where
  | unknown (name : Text) (alike : List Text)
  | valueMissing (name : Text)
  | valueRefused (name : Text)
deriving DecidableEq

/-- The options in the order in which they were given, and the other arguments. -/
structure Arguments (κ : Type) where
  options : List (κ × Option Text)
  words : List Text

namespace OptionSpec

variable {κ : Type}

/-- What one argument says: some options, the last of which may wait for the next argument as its value.  The
name is the one under which that option was given. -/
structure Reading (κ : Type) where
  options : List (κ × Option Text)
  waiting : Option (κ × Text)

/-- Reads short options that are strung together. -/
def readShort (specs : List (OptionSpec κ)) : Text → Except OptionFault (Reading κ)
  | [] => .ok ⟨[], none⟩
  | c :: rest =>
    match specs.find? (·.short = some c) with
    | none => .error (.unknown ['-', c] [])
    | some spec =>
      if spec.takesValue then
        if rest.isEmpty then .ok ⟨[], some (spec.key, ['-', c])⟩
        else .ok ⟨[(spec.key, some rest)], none⟩
      else do
        let reading ← readShort specs rest
        return { reading with options := (spec.key, none) :: reading.options }

/-- The name of a long option and the value behind its equals sign. -/
def splitValue (argument : Text) : Text × Option Text :=
  match argument.dropWhile (· ≠ '=') with
  | [] => (argument, none)
  | _ :: value => (argument.takeWhile (· ≠ '='), some value)

def readArgument (specs : List (OptionSpec κ)) (argument : Text) : Except OptionFault (Reading κ) :=
  let (name, value) := splitValue argument
  match specs.find? (·.long = name) with
  | some spec =>
    match spec.takesValue, value with
    | true, some value => .ok ⟨[(spec.key, some value)], none⟩
    | true, none => .ok ⟨[], some (spec.key, name)⟩
    | false, some _ => .error (.valueRefused name)
    | false, none => .ok ⟨[(spec.key, none)], none⟩
  | none =>
    if argument.take 2 = ['-', '-'] then
      .error (.unknown name (Suggestion.closest name (specs.map (·.long))))
    else readShort specs (argument.drop 1)

/-- Whether an argument is an option. -/
def isOption (argument : Text) : Bool :=
  argument.head? = some '-' && argument.length > 1

/-- Reads arguments.  If options may not stand between words, everything from the first word on is a word. -/
def parse (specs : List (OptionSpec κ)) (between : Bool) :
    List Text → Except OptionFault (Arguments κ)
  | [] => .ok ⟨[], []⟩
  | argument :: rest =>
    if argument = ['-', '-'] then .ok ⟨[], rest⟩
    else if isOption argument then
      match readArgument specs argument with
      | .error fault => .error fault
      | .ok ⟨options, none⟩ =>
        (parse specs between rest).map fun more => { more with options := options ++ more.options }
      | .ok ⟨options, some (key, name)⟩ =>
        match rest with
        | [] => .error (.valueMissing name)
        | value :: rest =>
          (parse specs between rest).map fun more =>
            { more with options := options ++ (key, some value) :: more.options }
    else if between then
      (parse specs between rest).map fun more => { more with words := argument :: more.words }
    else .ok ⟨[], argument :: rest⟩

end OptionSpec

namespace Arguments

variable {κ : Type} [DecidableEq κ]

def has (arguments : Arguments κ) (key : κ) : Bool :=
  arguments.options.any (·.1 = key)

/-- The value of an option that was given last. -/
def value? (arguments : Arguments κ) (key : κ) : Option Text :=
  (arguments.options.reverse.find? (·.1 = key)).bind (·.2)

end Arguments

end SearchQuery
