import Std.Data.ExtTreeMap
import ReportBinding.Text.Utf8

/-!
# Texts of the host

Paths, names of files and arguments of programs are bytes to the host.  Mostly
they are the bytes of a text, but the host takes any, so that a name need not
be well-formed UTF-8.
-/

namespace ReportBinding

/-- What the host takes for a path, a name or an argument. -/
@[ext] structure HostText where
  octets : Bytes
deriving DecidableEq, Repr

namespace HostText

/-- The host's form of a text. -/
def ofText (text : String) : HostText :=
  ⟨Text.Utf8.encode text⟩

instance : Coe String HostText := ⟨ofText⟩

/-- The text that the bytes are of, if they are well-formed UTF-8. -/
def text? (host : HostText) : Option String :=
  Text.Utf8.decode? host.octets

/-- The text that messages show. -/
def display (host : HostText) : String :=
  Text.Utf8.lossy host.octets

/-- Texts of the host are ordered byte by byte. -/
instance : Ord HostText := ⟨compareOn octets⟩

instance : Std.TransOrd HostText :=
  inferInstanceAs (Std.TransCmp (compareOn octets))

instance : Std.LawfulEqOrd HostText where
  eq_of_compare {_ _} same :=
    HostText.ext (Std.LawfulEqOrd.eq_of_compare same)

@[simp] theorem text?_ofText (text : String) :
    (ofText text).text? = some text :=
  Text.Utf8.decode?_encode text

end HostText
end ReportBinding
