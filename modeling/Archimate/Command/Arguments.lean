import Archimate.Text.Digit

namespace Archimate.Command

structure Arguments where
  directory : Option Text := none
  file : Option Text := none
  json : Bool := false
  verbose : Bool := false
deriving DecidableEq, Inhabited

/-- An option that takes no value. -/
inductive Switch where
  | help | json | verbose
deriving DecidableEq, Repr

/-- What one argument is before the ones around it are seen. -/
inductive Token where
  | operand (text : Text)
  | separator
  | file (value : Option Text)
  | switches (all : List Switch)
  | unknown
  /-- A switch with a value. -/
  | misused
  /-- A short form of several options. -/
  | ambiguous
deriving DecidableEq

namespace Token

def longNames : List Text := ["help", "file", "json", "verbose"]

/-- The option that a name means: the one it spells out, else those that it begins. -/
def candidates (name : Text) : List Text :=
  if longNames.contains name then [name]
  else longNames.filter fun long => name.isPrefixOf long

def switchOf (s : Switch) : Option Text → Token
  | none => .switches [s]
  | some _ => .misused

def ofLongName (name : Text) (value : Option Text) : Token :=
  if name = "file" then .file value
  else if name = "json" then switchOf .json value
  else if name = "verbose" then switchOf .verbose value
  else switchOf .help value

/-- What follows the first equals sign. -/
def valueOf (t : Text) : Option Text :=
  match t.dropWhile (· != .char '=') with
  | _ :: value => some value
  | [] => none

def withoutLineEnd (t : Text) : Text :=
  if t.getLast? = some (.char '\n') then t.dropLast else t

/-- Whether the text behind a hyphen makes it a negative number. -/
def isNumber (t : Text) : Bool :=
  let t := withoutLineEnd t
  match t.dropWhile Text.isDigit with
  | [] => !t.isEmpty
  | .char '.' :: places => !places.isEmpty && places.all Text.isDigit
  | _ => false

/-- An argument that looks like an option and is none. -/
def stray (t : Text) : Token :=
  if isNumber t.tail || t.contains (.char ' ') then .operand t else .unknown

def ofLong (t body : Text) : Token :=
  match candidates (body.takeWhile (· != .char '=')) with
  | [] => stray t
  | [name] => ofLongName name (valueOf body)
  | _ => .ambiguous

def switch? : CodePoint → Option Switch
  | .char 'v' => some .verbose
  | .char 'h' => some .help
  | _ => none

/-- Switches that share one hyphen; every letter has to stand for one. -/
def together (first : Switch) (letters : Text) : Token :=
  match letters.mapM switch? with
  | some others => .switches (first :: others)
  | none => .misused

/-- A one-letter switch and what is behind it: more letters, which may follow an equals sign. -/
def cluster (first : Switch) : Text → Token
  | [.char '='] => .misused
  | .char '=' :: letters => together first letters
  | letters => together first letters

def ofShort (t : Text) (letter : CodePoint) (letters : Text) : Token :=
  match switch? letter with
  | some first => cluster first letters
  | none => stray t

def ofText (t : Text) : Token :=
  match t with
  | .char '-' :: .char '-' :: body => ofLong t body
  | .char '-' :: letter :: letters => ofShort t letter letters
  | _ => .operand t

/-- What ends the options. -/
def separatorText : Text := "--"

def ofArguments : List Text → List Token
  | [] => []
  | argument :: rest =>
    if argument = separatorText then .separator :: rest.map .operand
    else ofText argument :: ofArguments rest

end Token

/-- What the command line asks for. -/
inductive Wish where
  | run (a : Arguments)
  | help
  | refused
deriving DecidableEq

namespace Arguments

def set (a : Arguments) : Switch → Arguments
  | .json => { a with json := true }
  | .verbose => { a with verbose := true }
  | .help => a

/-- The file that a value behind an equals sign names; a lone separator names none. -/
def named? (value : Text) : Option Text :=
  if value = Token.separatorText then none else some value

/-- Takes tokens from the left. One operand is the directory, with the separator beside it. -/
def gather (a : Arguments) (placed surplus : Bool) : List Token → Wish
  | [] => if surplus then .refused else .run a
  | .misused :: _ => .refused
  | .ambiguous :: _ => .refused
  | .unknown :: rest => gather a placed true rest
  | .switches all :: rest =>
    if all.contains .help then .help else gather (all.foldl set a) placed surplus rest
  | .file (some value) :: rest => gather { a with file := named? value } placed surplus rest
  | .file none :: .operand value :: rest =>
    gather { a with file := some value } placed surplus rest
  | .file none :: _ => .refused
  | .separator :: .operand text :: rest =>
    if placed then gather a true true rest
    else gather { a with directory := some text } true surplus rest
  | .separator :: rest => gather a true (surplus || placed) rest
  | .operand text :: .separator :: rest =>
    if placed then gather a true true rest
    else gather { a with directory := some text } true surplus rest
  | .operand text :: rest =>
    if placed then gather a true true rest
    else gather { a with directory := some text } true surplus rest

def read (arguments : List Text) : Wish :=
  let tokens := Token.ofArguments arguments
  if tokens.contains .ambiguous then .refused else gather {} false false tokens

end Arguments

end Archimate.Command
