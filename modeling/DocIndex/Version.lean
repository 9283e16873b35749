import DocIndex.Text.Blank
import DocIndex.Text.Decimal

/-!
Release numbers of three parts.
-/
namespace DocIndex

structure Version where
  major : UInt32
  minor : UInt32
  patch : UInt32
  deriving DecidableEq, Repr

structure VersionError where
  text : Text
  deriving DecidableEq, Repr

def VersionError.message (e : VersionError) : Text :=
  "invalid version '".toList ++ e.text ++ "': must be in semver format (e.g., 1.0.0)".toList

namespace Version

def part? (t : Text) : Option UInt32 := (Text.natBelow? UInt32.size t).map UInt32.ofNat

/-- Reads a release number with blanks around it allowed. -/
def ofText (t : Text) : Except VersionError Version :=
  match ((Text.trim t).splitOn '.').map part? with
  | [some major, some minor, some patch] => .ok ⟨major, minor, patch⟩
  | _ => .error ⟨t⟩

def text (v : Version) : Text :=
  Text.ofNat v.major.toNat ++ '.' :: Text.ofNat v.minor.toNat ++ '.' :: Text.ofNat v.patch.toNat

def le (v w : Version) : Bool :=
  v.major < w.major || (v.major = w.major &&
    (v.minor < w.minor || (v.minor = w.minor && v.patch ≤ w.patch)))

end Version

end DocIndex
