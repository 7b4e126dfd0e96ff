import Archimate.Files.Name
import Archimate.Text.Split

namespace Archimate

/-- A path as it is written, with its upward steps: what they lead to is known only when the path is
looked up. An absolute path has a root of one or two slashes, a relative one has none. -/
structure Path where
  root : Text
  parts : List Text
deriving DecidableEq, Inhabited

namespace Path

def slash : CodePoint := '/'

def here : Text := "."

def above : Text := ".."

/-- More than two slashes count as one. -/
def rootOf (t : Text) : Text :=
  match t.takeWhile (· == slash) with
  | [_, _] => "//"
  | [] => []
  | _ => "/"

/-- Empty parts and single dots lead nowhere. -/
def partsOf (t : Text) : List Text :=
  (Text.splitOn slash t).filter fun part => part != [] && part != here

def ofText (t : Text) : Path := ⟨rootOf t, partsOf t⟩

def text (p : Path) : Text :=
  if p.root = [] ∧ p.parts = [] then here else p.root ++ [slash].intercalate p.parts

def name (p : Path) : Text := (p.parts.getLast?).getD []

/-- The path of something inside the directory; an absolute path stays as it is. -/
def join (p q : Path) : Path :=
  if q.root = [] then ⟨p.root, p.parts ++ q.parts⟩ else q

def child (p : Path) (name : Text) : Path := ⟨p.root, p.parts ++ [name]⟩

def limit : Nat := 4095

/-- The bytes of a path; there are none when a half in it shows no byte, or a zero would end it. -/
def bytes? (p : Path) : Option (List UInt8) :=
  (FileName.ofText? p.text).filter fun bytes => !bytes.contains 0

end Path

end Archimate
