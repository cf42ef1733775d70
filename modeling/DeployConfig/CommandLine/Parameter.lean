/-
  Parameters of a command line.

  A parameter has a long name and perhaps a letter.  It is a flag, or it takes a value: behind an
  equals sign, right behind its letter, or in the next argument.  Letters of flags may stand
  together behind one dash.
-/
import DeployConfig.Text.Separated

namespace DeployConfig

/-- What ends the reading of a command line before its end. -/
inductive Interruption where
  /-- The arguments are not understood. -/
  | usage
  /-- Help is asked for. -/
  | help
  /-- The version is asked for. -/
  | version
  deriving DecidableEq, Repr

/-- What a parameter does to what has been read. -/
inductive Effect (A : Type) where
  | flag (set : A → Except Interruption A)
  | value (set : String → A → Except Interruption A)

/-- A parameter of a command line. -/
structure Parameter (A : Type) where
  long : String
  short : Option Char
  effect : Effect A

/-- What an argument looks like. -/
inductive Argument where
  /-- Two dashes: no parameter follows. -/
  | terminator
  /-- A long name, and what stands behind the equals sign. -/
  | long (name : String) (value : Option String)
  /-- Letters behind one dash. -/
  | letters (first : Char) (rest : List Char)
  /-- Anything else. -/
  | word (text : String)
  deriving DecidableEq, Repr

/-- What an argument looks like. -/
def Argument.ofText (text : String) : Argument :=
  match text.toList with
  | ['-', '-'] => terminator
  | '-' :: '-' :: rest =>
    let (name, value) := Text.splitAtFirst '=' rest
    long (String.ofList name) (value.map String.ofList)
  | '-' :: c :: rest => letters c rest
  | _ => word text

/-- Whether an argument may be the value of the parameter before it. -/
def Argument.isWord : Argument → Bool
  | word _ => true
  | _ => false

namespace Parameter

variable {A : Type}

/-- What one argument leads to. -/
inductive Progress (A : Type) where
  | done (read : A)
  /-- The next argument has to be a value. -/
  | waiting (read : A) (set : String → A → Except Interruption A)

/-- An argument with a long name. -/
def readLong (parameters : List (Parameter A)) (name : String) (value : Option String) (read : A) :
    Except Interruption (Progress A) :=
  match parameters.find? fun p => p.long == name with
  | none => .error .usage
  | some p =>
    match p.effect, value with
    | .flag set, none => (set read).map .done
    | .flag _, some _ => .error .usage
    | .value set, some text => (set text read).map .done
    | .value set, none => .ok (.waiting read set)

/-- The value that stands right behind a letter, perhaps behind an equals sign. -/
def attached : List Char → String
  | '=' :: rest => String.ofList rest
  | rest => String.ofList rest

/-- Letters behind one dash.  All in front of the first parameter that takes a value are flags, and
    what follows it is the value. -/
def readLetters (parameters : List (Parameter A)) (read : A) :
    List Char → Except Interruption (Progress A)
  | [] => .ok (.done read)
  | c :: rest =>
    match parameters.find? fun p => p.short == some c with
    | none => .error .usage
    | some p =>
      match p.effect with
      | .flag set => do readLetters parameters (← set read) rest
      | .value set =>
        if rest.isEmpty then .ok (.waiting read set) else (set (attached rest) read).map .done

/-- One argument that names parameters. -/
def readArgument (parameters : List (Parameter A)) (read : A) :
    Argument → Except Interruption (Progress A)
  | .long name value => readLong parameters name value read
  | .letters first rest => readLetters parameters read (first :: rest)
  | _ => .error .usage

/-- All parameters in front of the first word, and the arguments from that word on.  After two
    dashes there may be no word. -/
def readAll (parameters : List (Parameter A)) (read : A) :
    List String → Except Interruption (A × List String)
  | [] => .ok (read, [])
  | text :: rest =>
    match Argument.ofText text with
    | .word _ => .ok (read, text :: rest)
    | .terminator => if rest.isEmpty then .ok (read, []) else .error .usage
    | argument => do
      match ← readArgument parameters read argument with
      | .done read => readAll parameters read rest
      | .waiting read set =>
        match rest with
        | [] => .error .usage
        | value :: rest =>
          if (Argument.ofText value).isWord then readAll parameters (← set value read) rest
          else .error .usage

end Parameter

end DeployConfig
