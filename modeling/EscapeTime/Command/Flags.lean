import EscapeTime.Number.Integer
import EscapeTime.Text.Quoted

/-!
# Command-line flags

Flags come before the positional arguments, with one dash or two. A flag that takes a number has
its value after an equals sign or as the next argument; a switch takes a value only after an
equals sign. The arguments after `--`, or from the first that is no flag, are positional.
-/

namespace EscapeTime

namespace Command

structure Options where
  workers : Int64 := 0
  maxPixels : Int64 := 0
  verbose : Bool := false
  deriving DecidableEq, Repr

inductive Flag where
  | workers
  | maxPixels
  | verbose
  deriving DecidableEq, Repr

def Flag.named? (name : String) : Option Flag :=
  if name = "workers" then some .workers
  else if name = "max-pixels" then some .maxPixels
  else if name = "v" then some .verbose
  else none

inductive FlagFault where
  | help
  | badForm (argument : String)
  | unknown (name : String)
  | needsValue (name : String)
  | badNumber (value name : String) (fault : Literal.Fault)
  | badSwitch (value name : String)
  deriving DecidableEq, Repr

/-- What is said before the usage text. -/
def FlagFault.message : FlagFault → String
  | .help => ""
  | .badForm argument => "bad flag syntax: " ++ argument ++ "\n"
  | .unknown name => "flag provided but not defined: -" ++ name ++ "\n"
  | .needsValue name => "flag needs an argument: -" ++ name ++ "\n"
  | .badNumber value name fault =>
    let reason := match fault with
      | .malformed => "parse error"
      | .outOfRange => "value out of range"
    "invalid value " ++ Quoted.text value ++ " for flag -" ++ name ++ ": " ++ reason ++ "\n"
  | .badSwitch value name =>
    "invalid boolean value " ++ Quoted.text value ++ " for -" ++ name ++ ": parse error\n"

/-- What an argument is by its form. -/
inductive Argument where
  | positional
  /-- The end of the flags. -/
  | divider
  | malformed
  | flag (name : String) (value : Option String)
  deriving DecidableEq, Repr

/-- Splits the text of a flag at the first equals sign after its first character. -/
def splitFlag : List Char → Argument
  | [] => .malformed
  | first :: rest =>
    if first = '-' ∨ first = '=' then .malformed
    else
      let name := String.ofList (first :: rest.takeWhile (· ≠ '='))
      match rest.dropWhile (· ≠ '=') with
      | [] => .flag name none
      | _ :: value => .flag name (some (String.ofList value))

def classify (argument : String) : Argument :=
  match argument.toList with
  | ['-'] => .positional
  | ['-', '-'] => .divider
  | '-' :: '-' :: text => splitFlag text
  | '-' :: text => splitFlag text
  | _ => .positional

def readSwitch? (value : String) : Option Bool :=
  if ["1", "t", "T", "TRUE", "true", "True"].contains value then some true
  else if ["0", "f", "F", "FALSE", "false", "False"].contains value then some false
  else none

/-- Sets a flag that takes a number. The switch is left alone. -/
def Options.setNumber (o : Options) (flag : Flag) (n : Int64) : Options :=
  match flag with
  | .workers => { o with workers := n }
  | .maxPixels => { o with maxPixels := n }
  | .verbose => o

def Options.set (o : Options) (flag : Flag) (name value : String) : Except FlagFault Options :=
  match flag with
  | .verbose =>
    match readSwitch? value with
    | none => .error (.badSwitch value name)
    | some b => .ok { o with verbose := b }
  | .workers | .maxPixels =>
    match Literal.read value.toList with
    | .error fault => .error (.badNumber value name fault)
    | .ok n => .ok (o.setNumber flag n)

/-- Reads the flags; what is left are the positional arguments. A flag given twice has its last
value. -/
def readFlags (o : Options) : List String → Except FlagFault (Options × List String)
  | [] => .ok (o, [])
  | argument :: rest =>
    match classify argument with
    | .positional => .ok (o, argument :: rest)
    | .divider => .ok (o, rest)
    | .malformed => .error (.badForm argument)
    | .flag name value? =>
      match Flag.named? name with
      | none => .error (if name = "help" ∨ name = "h" then .help else .unknown name)
      | some flag =>
        match value? with
        | some value =>
          match o.set flag name value with
          | .error fault => .error fault
          | .ok o => readFlags o rest
        | none =>
          if flag = .verbose then readFlags { o with verbose := true } rest
          else
            match rest with
            | [] => .error (.needsValue name)
            | value :: rest =>
              match o.set flag name value with
              | .error fault => .error fault
              | .ok o => readFlags o rest

end Command

end EscapeTime
