/-
Why a file cannot be read or written.
-/
import Meetings.Text.Quoted

namespace Meetings

open Meetings.Text

/-- Why a file operation fails; each names the paths as they were given. -/
inductive FileFault where
  /-- A directory was to be made where a file is. -/
  | occupied (path : String)
  /-- A part of the path other than the last is a file. -/
  | notDirectory (path : String)
  | isDirectory (path : String)
  /-- A file was to replace a directory. -/
  | replacesDirectory (source target : String)
  | absent (path : String)
  /-- The path holds a character that no path may hold. -/
  | nullCharacter
  /-- The disk refuses for a reason of its own. -/
  | refused (reason : String)
deriving DecidableEq, Repr

/-- What is said about a failed file operation. -/
def FileFault.message : FileFault → String
  | occupied path => "[Errno 17] File exists: " ++ quoted path
  | notDirectory path => "[Errno 20] Not a directory: " ++ quoted path
  | isDirectory path => "[Errno 21] Is a directory: " ++ quoted path
  | replacesDirectory source target =>
    "[Errno 21] Is a directory: " ++ quoted source ++ " -> " ++ quoted target
  | absent path => "[Errno 2] No such file or directory: " ++ quoted path
  | nullCharacter => "embedded null byte"
  | refused reason => reason

end Meetings
