import Courier.Text.Path
import Courier.Text.Utf8

/-!
# What can be wrong with a file

A path may lead nowhere or to the wrong thing, and the bytes of a file may be no text.
-/

namespace Courier.Disk

/-- Why a path cannot be read. -/
inductive Fault where
  | missing
  | notADirectory
  | isADirectory
  /-- The path or a name in it is longer than the system allows. -/
  | nameTooLong
  /-- The path has a character by which the system ends paths. -/
  | nullByte
deriving DecidableEq, Repr

/-- The name of a fault. -/
def Fault.label : Fault → String
  | missing => "FileNotFoundError"
  | notADirectory => "NotADirectoryError"
  | isADirectory => "IsADirectoryError"
  | nameTooLong => "OSError"
  | nullByte => "ValueError"

/-- The system's words for a fault with a path. -/
def Fault.message (f : Fault) (path : Path) : String :=
  match f with
  | missing => "[Errno 2] No such file or directory: " ++ Text.quoted path.text
  | notADirectory => "[Errno 20] Not a directory: " ++ Text.quoted path.text
  | isADirectory => "[Errno 21] Is a directory: " ++ Text.quoted path.text
  | nameTooLong => "[Errno 36] File name too long: " ++ Text.quoted path.text
  | nullByte => "embedded null byte"

/-- Why a file yields no text. -/
inductive TextFault where
  | file (fault : Fault)
  | bytes (fault : Utf8.Fault)
deriving DecidableEq, Repr

end Courier.Disk
