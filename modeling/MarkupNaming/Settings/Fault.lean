import MarkupNaming.Files.Tree
import MarkupNaming.Settings.Basic
import MarkupNaming.Yaml.Fault

/-!
# Faults of settings

Everything that can be wrong with settings, with the message for each.
-/
namespace MarkupNaming
open Text

/-- What is wrong with settings. -/
inductive SettingsFault
  | notMapping (kind : Text)
  | faulty (count : Nat)
  /-- A file that cannot be read. -/
  | unreadable (fault : FileFault)
  /-- A file whose text is no YAML, with the rule that it breaks. -/
  | malformed (path : Text) (source : Text) (reason : Yaml.SyntaxFault)
  | invalidExpiry (release : Release)
deriving DecidableEq, Repr

namespace SettingsFault

def message : SettingsFault → Text
  | notMapping kind => "Settings must be a mapping, not " ++ kind ++ "."
  | faulty count => "Invalid settings: " ++ ofNat count ++ " validation error(s)."
  | unreadable fault => "Unable to read settings file '" ++ fault.path.text ++ "'."
  | malformed path .. => "Settings file '" ++ path ++ "' is not valid YAML."
  | invalidExpiry r =>
    "Release '" ++ r.name ++ "' has an invalid expiry date: " ++ quoted r.expiry ++ "."

end SettingsFault
end MarkupNaming
