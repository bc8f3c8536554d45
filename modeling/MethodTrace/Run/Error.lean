import MethodTrace.Archive.Error
import MethodTrace.Cache.Error
import MethodTrace.ClassFile.Error
import MethodTrace.Settings

/-!
What can end a run.
-/

namespace MethodTrace

/-- Why a run fails. -/
inductive RunError
  | settings (error : SettingsError)
  | cache (error : CacheError)
  | archive (error : ArchiveError)
  /-- A class that cannot be read or traced. -/
  | untraceable (identity : String) (error : ClassFileError)
  /-- A path that could lead out of the output. -/
  | unsafePath (path : String)
  | io (path : String)
  | changeFeed (path : String)
  | unknownRoot (root : String)
  | missingContent (identity : String)
  deriving DecidableEq

namespace RunError

/-- What is said about an error. -/
def message : RunError → String
  | settings error => error.message
  | cache error => error.message
  | archive error => error.message
  | untraceable identity error => "failed to rewrite " ++ identity ++ ": " ++ error.message
  | unsafePath path => "unsafe unit path '" ++ path ++ "'"
  | io path => "I/O error at " ++ path ++ ": the operation failed"
  | changeFeed path => "invalid change feed " ++ path ++ ": the text is not as it should be"
  | unknownRoot root => "change feed names unknown directory root " ++ root
  | missingContent identity => "no content for changed unit " ++ identity

end RunError

end MethodTrace
