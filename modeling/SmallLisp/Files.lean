import SmallLisp.Transcript

/-!
# Files

Programs are read from files in UTF-8. A path is brought into its plain form before it is looked
up: repeated separators and single dots are left out. It is then followed part by part, from the
root or from the current directory, and two dots lead back to the directory above.

## Main definitions

* `FileEntry`: what is found under a path
* `plainPath`: the plain form of a path
* `decodeFile`: the text of a file
* `Files`: a tree of files with a current directory
* `Files.entry`: what is found by following a path
* `Session.runFile`: runs the forms of a file
-/

namespace SmallLisp

/-- What is found under a path. -/
inductive FileEntry where
  | missing
  | directory
  /-- A part of the path before its end is a file. -/
  | beneathFile
  /-- The path, or a part of it, is longer than any that can exist. -/
  | tooLong
  | bytes (content : List UInt8)

/-- The parts of a path between separators, given the part under way in reverse. -/
def pathPartsFrom (part : List Char) : List Char → List (List Char)
  | [] => [part.reverse]
  | c :: cs => if c = '/' then part.reverse :: pathPartsFrom [] cs else pathPartsFrom (c :: part) cs

/-- The parts of a path that matter. -/
def pathParts (path : String) : List String :=
  ((pathPartsFrom [] path.toList).map String.ofList).filter fun p => p ≠ "" ∧ p ≠ "."

/-- The root that a path starts from: none, or one separator, or exactly two. -/
def pathRoot (path : String) : String :=
  match path.toList with
  | '/' :: '/' :: '/' :: _ => "/"
  | '/' :: '/' :: _ => "//"
  | '/' :: _ => "/"
  | _ => ""

/-- The plain form of a path. The empty path is the current directory. -/
def plainPath (path : String) : String :=
  let plain := pathRoot path ++ Text.joinWith "/" (pathParts path)
  if plain = "" then "." else plain

/-- The text of a file. -/
def decodeFile (bytes : List UInt8) : Except FileError String :=
  match Text.decodeUtf8 bytes with
  | .ok text => .ok (String.ofList (Text.plainNewlines text.toList))
  | .error e => .error (.undecodable e)

/-- The text under a path, given what is found there. -/
def entryText (path : String) (entry : FileEntry) : Except FileError String :=
  if path.toList.contains '\x00' then .error .nullByte
  else
    match entry with
    | .missing => .error (.notFound (plainPath path))
    | .directory => .error (.isDirectory (plainPath path))
    | .beneathFile => .error (.notADirectory (plainPath path))
    | .tooLong => .error (.nameTooLong (plainPath path))
    | .bytes content => decodeFile content

/-- The most bytes of a part of a path. -/
def maxPartBytes : Nat := 255

/-- The most bytes of a path. -/
def maxPathBytes : Nat := 4095

/-- A tree of files. A place in it is given by the names that lead to it from the root. Directories
on the way to a listed place, or to the current directory, are there without being listed. -/
structure Files where
  current : List String
  listed : List (List String × FileEntry)

namespace Files

/-- Whether a place is a directory without being listed. -/
def isImplied (files : Files) (place : List String) : Bool :=
  place.isPrefixOf files.current || files.listed.any fun f => place.isPrefixOf f.1

/-- What is found at a place. -/
def at? (files : Files) (place : List String) : FileEntry :=
  match files.listed.lookup place with
  | some e => e
  | none => if files.isImplied place then .directory else .missing

/-- The place that a part of a path leads to. There is nothing above the root. -/
def stepInto (place : List String) (part : String) : List String :=
  if part = ".." then place.dropLast else place ++ [part]

/-- What is found by following the parts of a path from a place. -/
def follow (files : Files) (place : List String) : List String → FileEntry
  | [] => files.at? place
  | part :: parts =>
    match files.at? place with
    | .directory =>
      if maxPartBytes < part.utf8ByteSize then .tooLong
      else files.follow (stepInto place part) parts
    | .bytes _ => .beneathFile
    | e => e

/-- The place that a path starts from. -/
def startOf (files : Files) (path : String) : List String :=
  if pathRoot path = "" then files.current else []

/-- What is found under a path. -/
def entry (files : Files) (path : String) : FileEntry :=
  if maxPathBytes < (plainPath path).utf8ByteSize then .tooLong
  else files.follow (files.startOf path) (pathParts path)

/-- The tree with one more file or directory, put where a path leads to. -/
def put (files : Files) (path : String) (e : FileEntry) : Files :=
  { files with listed := ((pathParts path).foldl stepInto (files.startOf path), e) :: files.listed }

end Files

/-- The text of a file among others. -/
def Files.read (files : Files) (path : String) : Except FileError String :=
  entryText path (files.entry path)

namespace Session

/-- Runs the forms of a file that was read. -/
def runFileText (verbose : Bool) (s : Session) (path : String)
    (text : Except FileError String) : Run :=
  match text with
  | .error e => ⟨[], .error (.file e), s⟩
  | .ok text =>
    let r := s.runText verbose text
    ⟨logEvents verbose runnerLog ("running " ++ path) ++ r.events, r.result, r.session⟩

/-- Runs the forms of a file. -/
def runFile (verbose : Bool) (files : Files) (s : Session) (path : String) : Run :=
  s.runFileText verbose path (files.read path)

end Session

end SmallLisp
