import SqlBridge.CommandLine.Similar
import SqlBridge.Failure

/-!
The words of a command line as options, option values and arguments. The value of an option is the
next word, follows an equals sign after a long name, or directly follows a short one. Two dashes end
the options.
-/

namespace SqlBridge.CommandLine

/-- An option with its long name; a short name is one letter, and such an option takes a value. -/
structure OptionForm where
  name : String
  short : Option Char
  takesValue : Bool

def helpOption : OptionForm := ⟨"--help", none, false⟩

/-- The kind of a word: an argument, a flag, an option with its value, or an option whose value is
the next word. The name is the one used in the word. -/
inductive Word where
  | argument
  | flag (name : String)
  | given (name value : String)
  | awaiting (name called : String)

def readWord (forms : List OptionForm) (word : String) : Outcome Word :=
  match word.toList with
  | '-' :: c :: rest =>
    let called := String.ofList (word.toList.takeWhile (· ≠ '='))
    let attached := (word.toList.dropWhile (· ≠ '=')).tail?
    match forms.find? fun form => form.name = called with
    | some form =>
      match form.takesValue, attached with
      | true, some value => .ok (.given form.name (String.ofList value))
      | true, none => .ok (.awaiting form.name called)
      | false, some _ => .error (.command (.unwantedValue called))
      | false, none => .ok (.flag form.name)
    | none =>
      if c = '-' then
        .error (.command (.unknownOption called (similarNames called (forms.map (·.name)))))
      else
        let called := String.ofList ['-', c]
        match forms.find? fun form => form.short = some c with
        | some form =>
          if rest.isEmpty then .ok (.awaiting form.name called)
          else .ok (.given form.name (String.ofList rest))
        | none => .error (.command (.unknownOption called []))
  | _ => .ok .argument

/-- A parsed command line, with the words of each kind in order. -/
structure Words where
  flags : List String
  values : List (String × String)
  arguments : List String

namespace Words

def ofArguments (arguments : List String) : Words := ⟨[], [], arguments⟩

def addFlag (w : Words) (name : String) : Words := { w with flags := name :: w.flags }

def addValue (w : Words) (name value : String) : Words :=
  { w with values := (name, value) :: w.values }

def addArgument (w : Words) (argument : String) : Words :=
  { w with arguments := argument :: w.arguments }

/-- Parses a command line. Unless arguments and options may be mixed, the first argument ends the
options. -/
def read (forms : List OptionForm) (mixed : Bool) : List String → Outcome Words
  | [] => .ok (ofArguments [])
  | word :: rest =>
    if word = "--" then .ok (ofArguments rest)
    else
      match readWord forms word with
      | .error f => .error f
      | .ok .argument =>
        if mixed then (read forms mixed rest).map fun w => w.addArgument word
        else .ok (ofArguments (word :: rest))
      | .ok (.flag name) => (read forms mixed rest).map fun w => w.addFlag name
      | .ok (.given name value) => (read forms mixed rest).map fun w => w.addValue name value
      | .ok (.awaiting name called) =>
        match rest with
        | [] => .error (.command (.missingValue called))
        | value :: rest => (read forms mixed rest).map fun w => w.addValue name value

/-- The last value of an option. -/
def value? (w : Words) (name : String) : Option String :=
  (w.values.reverse.find? fun (other, _) => other = name).map (·.2)

/-- Every value of an option that may be repeated. -/
def valuesOf (w : Words) (name : String) : List String :=
  (w.values.filter fun (other, _) => other = name).map (·.2)

def hasFlag (w : Words) (name : String) : Bool := w.flags.contains name

/-- The only argument. -/
def argument (w : Words) (name : String) : Outcome String :=
  match w.arguments with
  | [] => .error (.command (.missingArgument name))
  | argument :: _ => .ok argument

/-- Checks that there are at most `count` arguments. -/
def noMoreThan (w : Words) (count : Nat) : Outcome Unit :=
  match w.arguments.drop count with
  | [] => .ok ()
  | extra => .error (.command (.extraArguments extra))

end Words

end SqlBridge.CommandLine
