import ReportBinding.Text.Host

/-!
# Paths

A path is a text of the host whose names are separated by slashes.  Paths are
kept as they were given and joined without tidying, because messages show them;
only a lookup takes them apart.
-/

namespace ReportBinding
namespace Files
namespace Path

/-- The byte between names. -/
def slash : UInt8 := 0x2F

/-- The name of the directory that it is looked up in. -/
def here : HostText := "."

/-- The name of the directory around. -/
def above : HostText := ".."

/-- Whether a path starts at the root. -/
def isAbsolute (path : HostText) : Bool :=
  path.octets.head? == some slash

/-- Whether a path ends in a slash. -/
def endsInSlash (path : HostText) : Bool :=
  path.octets.getLast? == some slash

/-- A second path seen from a first one.  An absolute second path stands alone;
otherwise one slash separates the two, unless the first is empty or already
ends in one. -/
def join (base part : HostText) : HostText :=
  if isAbsolute part then part
  else if base.octets.isEmpty || endsInSlash base then
    ⟨base.octets ++ part.octets⟩
  else ⟨base.octets ++ slash :: part.octets⟩

/-- The pieces between slashes, empty ones included, when the first piece
already has the given bytes, last first. -/
def piecesFrom (reversed : Bytes) : Bytes → List Bytes
  | [] => [reversed.reverse]
  | octet :: rest =>
      if octet = slash then reversed.reverse :: piecesFrom [] rest
      else piecesFrom (octet :: reversed) rest

/-- The names in a path, from the outermost inwards. -/
def names (path : HostText) : List HostText :=
  ((piecesFrom [] path.octets).filter fun piece => !piece.isEmpty).map
    HostText.mk

/-- The names that a lookup visits.  A slash at the end asks for a directory,
which the last name `here` does too. -/
def steps (path : HostText) : List HostText :=
  if endsInSlash path then names path ++ [here] else names path

/-- The path made of names. -/
def ofNames (absolute : Bool) (names : List HostText) : HostText :=
  ⟨(if absolute then [slash] else []) ++
    [slash].intercalate (names.map HostText.octets)⟩

/-- The path of the directory that a path's last name stands in. -/
def outer (path : HostText) : HostText :=
  ofNames (isAbsolute path) (names path).dropLast

/-- The last name of a path. -/
def lastName? (path : HostText) : Option HostText :=
  (names path).getLast?

end Path
end Files
end ReportBinding
