import NativeBoundary.Text.Quoted

/-!
# Words of a command line

An option is a long name behind two dashes or a letter behind one. A long option may carry its
value behind an equals sign, a letter may stand in a cluster and carry the rest of the cluster as
its value, and either takes the next word otherwise, whatever that looks like. Two dashes alone
end the options; one dash alone is a plain word.
-/

namespace NativeBoundary.CommandLine

inductive UsageFault where
  | unknownOption (name : String)
  | missingValue (name : String)
  | unexpectedValue (name : String)
  | unknownCommand (name : String)
  | missingCommand
  | missingArgument
  | extraArgument (word : String)
  | brokenPath (word : String)
  deriving DecidableEq, Repr

def UsageFault.text : UsageFault → String
  | .unknownOption name => s!"No such option: {name}"
  | .missingValue name => s!"Option '{name}' requires an argument."
  | .unexpectedValue name => s!"Option '{name}' does not take a value."
  | .unknownCommand name => s!"No such command '{name}'."
  | .missingCommand => "Missing command."
  | .missingArgument => "Missing argument 'DOCUMENT'."
  | .extraArgument word => s!"Got unexpected extra argument ({word})"
  | .brokenPath word => s!"Invalid path {Text.quoted word}: embedded null character"

/-- What an option does to the choices made so far: alone, or with the value that it takes. -/
inductive Switch (σ : Type) where
  | flag (set : σ → σ)
  | valued (set : String → σ → σ)

structure Grammar (σ : Type) where
  long : List (String × Switch σ) := []
  short : List (Char × Switch σ) := []
  /-- Whether options may stand behind the first plain word. -/
  interspersed : Bool := true

inductive Word where
  | plain
  | ending
  | long (name : String) (value : Option String)
  | short (letters : List Char)
  deriving DecidableEq, Repr

def Word.ofString (text : String) : Word :=
  match text.toList with
  | ['-', '-'] => .ending
  | '-' :: '-' :: rest =>
      let name := String.ofList ('-' :: '-' :: rest.takeWhile (· ≠ '='))
      match rest.dropWhile (· ≠ '=') with
      | [] => .long name none
      | _ :: value => .long name (some (String.ofList value))
  | '-' :: letter :: rest => .short (letter :: rest)
  | _ => .plain

/-- The choices after a word, and the option that takes the next word as its value. -/
structure Progress (σ : Type) where
  choices : σ
  waiting : Option (String × (String → σ → σ)) := none

namespace Grammar

variable {σ : Type}

def readLong (grammar : Grammar σ) (choices : σ) (name : String) (value : Option String) :
    Except UsageFault (Progress σ) :=
  match grammar.long.lookup name, value with
  | none, _ => .error (.unknownOption name)
  | some (.flag set), none => .ok { choices := set choices }
  | some (.flag _), some _ => .error (.unexpectedValue name)
  | some (.valued set), some given => .ok { choices := set given choices }
  | some (.valued set), none => .ok { choices, waiting := some (name, set) }

def readCluster (grammar : Grammar σ) (choices : σ) : List Char → Except UsageFault (Progress σ)
  | [] => .ok { choices }
  | letter :: rest =>
      let name := String.ofList ['-', letter]
      match grammar.short.lookup letter with
      | none => .error (.unknownOption name)
      | some (.flag set) => readCluster grammar (set choices) rest
      | some (.valued set) =>
          if rest.isEmpty then .ok { choices, waiting := some (name, set) }
          else .ok { choices := set (String.ofList rest) choices }

/-- The choices that the options of a line make, and its plain words. -/
def read (grammar : Grammar σ) (choices : σ) :
    List String → Except UsageFault (σ × List String)
  | [] => .ok (choices, [])
  | word :: rest =>
      let progress? :=
        match Word.ofString word with
        | .long name value => some (grammar.readLong choices name value)
        | .short letters => some (grammar.readCluster choices letters)
        | _ => none
      match progress? with
      | some (.error fault) => .error fault
      | some (.ok ⟨next, none⟩) => read grammar next rest
      | some (.ok ⟨next, some (name, set)⟩) =>
          match rest with
          | [] => .error (.missingValue name)
          | value :: more => read grammar (set value next) more
      | none =>
          if Word.ofString word = .ending then .ok (choices, rest)
          else if grammar.interspersed then
            (read grammar choices rest).map fun (last, words) => (last, word :: words)
          else .ok (choices, word :: rest)

end Grammar

end NativeBoundary.CommandLine
