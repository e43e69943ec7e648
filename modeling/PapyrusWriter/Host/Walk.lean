import PapyrusWriter.Host.Node
import PapyrusWriter.Host.Path
import PapyrusWriter.Host.SystemError
/-!
# Following a path

A path is followed piece by piece from a directory. Symbolic links are replaced by their targets, at
most forty times. What stands before another piece has to be a directory, also if that piece is
empty or `.`.
-/

namespace PapyrusWriter

set_option autoImplicit false

/-- What a path is followed for. -/
inductive Purpose where
  /-- To use what is there. -/
  | use
  /-- To open a file that is created if there is none; its path cannot end in a separator. -/
  | create
  /-- To handle the entry itself: a link at the end is not followed. -/
  | entry
deriving DecidableEq

/-- Where a path leads: to a node, or to a name that is free in its directory. -/
inductive Spot where
  | found (location : Location) (node : Node)
  | free (location : Location)

namespace Walk

/-- Names have at most this many bytes. -/
def nameLimit : Nat := 255

/-- Paths have at most this many bytes. -/
def pathLimit : Nat := 4095

/-- A path follows at most this many links. -/
def linkLimit : Nat := 40

/-- Where a path starts: at the top, or in the given directory. -/
def start (here : Location) (path : String) : Location :=
  match path.toList with
  | '/' :: _ => []
  | _ => here

def pieces (path : String) : List String :=
  (Path.split path.toList).map String.ofList

/-- Follows pieces from a directory, where links are left to `follow`. -/
def alongWith (top : Node) (purpose : Purpose)
    (follow : Location → List String → Except SystemError Spot) :
    Location → List String → Except SystemError Spot
  | here, [] =>
      match top.get? here with
      | some node => .ok (.found here node)
      | none => .error .notFound
  | here, piece :: rest =>
      if piece = "" || piece = "." then alongWith top purpose follow here rest
      else if piece = ".." then alongWith top purpose follow here.dropLast rest
      else if purpose = .create && rest ≠ [] && rest.all (· = "") then .error .isDirectory
      else if nameLimit < piece.utf8ByteSize then .error .nameTooLong
      else
        let location := here ++ [piece]
        match top.get? location with
        | none => if rest = [] then .ok (.free location) else .error .notFound
        | some (.directory _) => alongWith top purpose follow location rest
        | some (.link target) =>
            if purpose = .entry && rest = [] then .ok (.found location (.link target))
            else follow (start here target) (pieces target ++ rest)
        | some node => if rest = [] then .ok (.found location node) else .error .notDirectory

/-- Follows pieces from a directory with a bound on the links. -/
def along (top : Node) (purpose : Purpose) :
    Nat → Location → List String → Except SystemError Spot
  | 0 => alongWith top purpose fun _ _ => .error .tooManyLinks
  | links + 1 => alongWith top purpose (along top purpose links)

end Walk

end PapyrusWriter
