/-!
Paths of files: joining them, and taking the written form apart into the names to walk along.
-/

namespace DuplexAudio

namespace PathText

/-- An absolute second path replaces the first; otherwise one slash stands between them. Nothing
else is normalised. -/
def join (first second : String) : String :=
  if second.toList.head? == some '/' then second
  else if first.isEmpty || first.toList.getLast? == some '/' then first ++ second
  else first ++ "/" ++ second

/-- The stretches between slashes, empty ones included. -/
def splitSlashes : List Char → List (List Char)
  | [] => [[]]
  | c :: rest =>
    if c = '/' then [] :: splitSlashes rest
    else match splitSlashes rest with
      | [] => [[c]]
      | first :: others => (c :: first) :: others

/-- A reversed path without the slashes, and the points between slashes, at its end. -/
def trimReversed : List Char → List Char
  | '/' :: rest => trimReversed rest
  | '.' :: '/' :: rest => trimReversed rest
  | text => text

/-- The path of the directory that a path lies in, as it is written in the path itself. It is empty
for a single name. -/
def containing (text : String) : String :=
  let outer := trimReversed ((trimReversed text.toList.reverse).dropWhile (· != '/'))
  if outer.isEmpty && text.toList.head? == some '/' then "/" else String.ofList outer.reverse

/-- The stem and the extension of a file name: what stands before and after its last point. A name
without a stem has no extension. -/
def splitExtension (name : List Char) : Option (List Char × List Char) :=
  let extension := (name.reverse.takeWhile (· != '.')).reverse
  let stem := name.take (name.length - extension.length - 1)
  if name.contains '.' && !stem.isEmpty && name != ['.', '.'] then some (stem, extension) else none

end PathText

/-- The names to walk along and the name at the end of the way. A path that ends in points has none
at its end, and one that ends in a slash only fits a directory. -/
structure FilePath where
  absolute : Bool
  way : List String
  last : Option String
  slash : Bool
  deriving DecidableEq, Repr

namespace FilePath

def ofText (text : String) : FilePath :=
  let stretches := PathText.splitSlashes text.toList
  let names := (stretches.filter (· != [])).map String.ofList
  let last := names.getLast?.filter fun name => name != "." && name != ".."
  { absolute := text.toList.head? == some '/'
    way := (if last.isSome then names.dropLast else names).filter (· != ".")
    last
    slash := stretches.getLast? == some [] }

def names (path : FilePath) : List String := path.way ++ path.last.toList

end FilePath
end DuplexAudio
