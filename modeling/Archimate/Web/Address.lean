import Archimate.Text.Digit
import Archimate.Text.Split
import Archimate.Text.Utf8

namespace Archimate.Web

structure Address where
  path : List Char
  query : List Char
deriving DecidableEq

namespace Address

/-- The text before the first mark and the text behind it. -/
def cutAt (mark : Char) (cs : List Char) : List Char × List Char :=
  (cs.takeWhile (· != mark), (cs.dropWhile (· != mark)).drop 1)

/-- Drops a host name, which follows two slashes. -/
def withoutHost : List Char → List Char
  | '/' :: '/' :: rest => rest.dropWhile (· != '/')
  | cs => cs

/-- Leaves out single dots and takes one step back for double ones; the parts are reversed. -/
def enter (above : List (List Char)) (part : List Char) : List (List Char) :=
  if part = ['.'] then above
  else if part = ['.', '.'] then
    if above = [[]] then above else above.tail
  else part :: above

def resolveDots (cs : List Char) : List Char :=
  ['/'].intercalate (((Text.splitOn '/' cs).foldl enter []).reverse)

/-- The bytes of a text in which two hexadecimal digits behind a percent sign write a byte. -/
def percentBytes : List Char → List UInt8
  | '%' :: high :: low :: rest =>
    match Text.hexValue? high, Text.hexValue? low with
    | some h, some l => UInt8.ofNat (16 * h + l) :: percentBytes rest
    | _, _ => Text.utf8 ['%'] ++ percentBytes (high :: low :: rest)
  | c :: rest => Text.utf8 [c] ++ percentBytes rest
  | [] => []

def decode (cs : List Char) : List Char := Text.ofUtf8 (percentBytes cs)

/-- An escaped percent sign can begin an escape of its own, and no more than that. -/
def decodeTwice (cs : List Char) : List Char := decode (decode cs)

/-- A path begins with one slash. -/
def rooted (cs : List Char) : List Char := '/' :: cs.dropWhile (· == '/')

def read (target : String) : Address :=
  let (located, _) := cutAt '#' target.toList
  let (path, query) := cutAt '?' located
  ⟨decodeTwice (rooted (resolveDots (rooted (withoutHost path)))), query⟩

def parts (a : Address) : List String :=
  ((Text.splitOn '/' a.path).drop 1).map String.ofList

/-- Marks that a path shows as they are; a percent sign among them does not begin an escape. -/
def pathMarks : List Char := ":/%@=[]!$&\x27()*+,;_.-~".toList

/-- Marks that a query shows as they are, among them the percent sign of what is escaped already. -/
def queryMarks : List Char := "?#".toList ++ pathMarks

def percentEscape (b : UInt8) : List Char :=
  '%' :: (Text.hexDigits 2 b.toNat).map Char.toUpper

def encode (marks cs : List Char) : List Char :=
  cs.flatMap fun c =>
    if c.isAlphanum || marks.contains c then [c] else (Text.utf8 [c]).flatMap percentEscape

def written (a : Address) : String :=
  let path := encode pathMarks a.path
  String.ofList (if a.query = [] then path else path ++ '?' :: encode queryMarks a.query)

/-- The address without the slashes at the end of its path. -/
def trimmed (a : Address) : Address :=
  { a with path := (a.path.reverse.dropWhile (· == '/')).reverse }

end Address

end Archimate.Web
