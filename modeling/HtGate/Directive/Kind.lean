import HtGate.Text.Basic
/-!
# Kinds of directives

Every directive is of a kind, and every kind has a name. A directive either stands on one line of its
own or is a block with directives inside.
-/

namespace HtGate

/-- What is done to a response header. -/
inductive HeaderAction where
  | set
  | unset
  | append
  | merge
  | add
  deriving DecidableEq, Repr

namespace HeaderAction

/-- All actions. -/
def all : List HeaderAction := [set, unset, append, merge, add]

/-- The word for an action. -/
def word : HeaderAction → Text
  | set => "set".toList
  | unset => "unset".toList
  | append => "append".toList
  | merge => "merge".toList
  | add => "add".toList

end HeaderAction

/-- A setting of the protection against guessed passwords. -/
inductive GuardSetting where
  | protection
  | allowedAttempts
  | window
  | action
  | throttleDuration
  | forwardedFor
  | whitelist
  | protectPath
  deriving DecidableEq, Repr

/-- The kinds of directives that stand on one line. -/
inductive Kind where
  /-- Changes a response header, on errors too if `always`. -/
  | header (always : Bool) (action : HeaderAction)
  /-- Sets a request header. -/
  | requestHeaderSet
  /-- Removes a request header. -/
  | requestHeaderUnset
  /-- Sets a PHP value. -/
  | phpValue (admin : Bool)
  /-- Sets a PHP flag. -/
  | phpFlag (admin : Bool)
  /-- Says whether allowing or denying rules win. -/
  | order
  /-- Lets hosts in. -/
  | allowFrom
  /-- Keeps hosts out. -/
  | denyFrom
  /-- Sends a path elsewhere. -/
  | redirect
  /-- Sends the paths that match a pattern elsewhere. -/
  | redirectMatch
  /-- What is shown on an error. -/
  | errorDocument
  /-- Turns lifetimes on or off. -/
  | expiresActive
  /-- The lifetime of a content type. -/
  | expiresByType
  /-- The lifetime of all other content. -/
  | expiresDefault
  /-- Sets an environment variable. -/
  | setEnv
  /-- Sets an environment variable if an attribute of the request matches. -/
  | setEnvIf
  /-- Sets an environment variable if the browser matches. -/
  | browserMatch
  /-- A setting of the protection against guessed passwords. -/
  | guard (setting : GuardSetting)
  /-- Grants access. -/
  | requireAllGranted
  /-- Denies access. -/
  | requireAllDenied
  /-- Grants access to hosts. -/
  | requireIp
  /-- Grants access to all but some hosts. -/
  | requireNotIp
  /-- Asks for a user who proves an identity. -/
  | requireValidUser
  /-- The way a user proves an identity. -/
  | authType
  /-- The realm a user is asked for. -/
  | authName
  /-- The file of users and passwords. -/
  | authUserFile
  /-- Features that are switched. -/
  | options
  | addHandler
  | setHandler
  | addType
  | directoryIndex
  | forceType
  | addEncoding
  | addCharset
  /-- A kind that no line is read as. -/
  | other (name : Text)
  deriving DecidableEq, Repr

namespace GuardSetting

/-- All settings. -/
def all : List GuardSetting :=
  [protection, allowedAttempts, window, action, throttleDuration, forwardedFor, whitelist,
    protectPath]

/-- The name of a setting. -/
def name : GuardSetting → Text
  | protection => "brute_force_protection".toList
  | allowedAttempts => "brute_force_allowed_attempts".toList
  | window => "brute_force_window".toList
  | action => "brute_force_action".toList
  | throttleDuration => "brute_force_throttle_duration".toList
  | forwardedFor => "brute_force_x_forwarded_for".toList
  | whitelist => "brute_force_whitelist".toList
  | protectPath => "brute_force_protect_path".toList

end GuardSetting

namespace Kind

/-- The name of a kind. -/
def name : Kind → Text
  | header always action =>
    (if always then "header_always_" else "header_").toList ++ action.word
  | requestHeaderSet => "request_header_set".toList
  | requestHeaderUnset => "request_header_unset".toList
  | phpValue admin => (if admin then "php_admin_value" else "php_value").toList
  | phpFlag admin => (if admin then "php_admin_flag" else "php_flag").toList
  | order => "order".toList
  | allowFrom => "allow_from".toList
  | denyFrom => "deny_from".toList
  | redirect => "redirect".toList
  | redirectMatch => "redirect_match".toList
  | errorDocument => "error_document".toList
  | expiresActive => "expires_active".toList
  | expiresByType => "expires_by_type".toList
  | expiresDefault => "expires_default".toList
  | setEnv => "setenv".toList
  | setEnvIf => "setenvif".toList
  | browserMatch => "browser_match".toList
  | guard setting => setting.name
  | requireAllGranted => "require_all_granted".toList
  | requireAllDenied => "require_all_denied".toList
  | requireIp => "require_ip".toList
  | requireNotIp => "require_not_ip".toList
  | requireValidUser => "require_valid_user".toList
  | authType => "auth_type".toList
  | authName => "auth_name".toList
  | authUserFile => "auth_user_file".toList
  | options => "options".toList
  | addHandler => "add_handler".toList
  | setHandler => "set_handler".toList
  | addType => "add_type".toList
  | directoryIndex => "directory_index".toList
  | forceType => "force_type".toList
  | addEncoding => "add_encoding".toList
  | addCharset => "add_charset".toList
  | other name => name

/-- The kinds that lines are read as. -/
def all : List Kind :=
  HeaderAction.all.map (header false) ++ HeaderAction.all.map (header true)
    ++ [requestHeaderSet, requestHeaderUnset, phpValue false, phpFlag false, phpValue true,
      phpFlag true, order, allowFrom, denyFrom, redirect, redirectMatch, errorDocument,
      expiresActive, expiresByType, expiresDefault, setEnv, setEnvIf, browserMatch]
    ++ GuardSetting.all.map guard
    ++ [requireAllGranted, requireAllDenied, requireIp, requireNotIp, requireValidUser, authType,
      authName, authUserFile, options, addHandler, setHandler, addType, directoryIndex, forceType,
      addEncoding, addCharset]

/-- The kind with a name. -/
def ofName (name : Text) : Kind := (all.find? (·.name == name)).getD (other name)

/-- The rules of the legacy access control. -/
def isLegacyAccess : Kind → Bool
  | order | allowFrom | denyFrom => true
  | _ => false

/-- The kinds that put access into the hands of the Require rules. Asking for a valid user alone does
not. -/
def isRequireAccess : Kind → Bool
  | requireAllGranted | requireAllDenied | requireIp | requireNotIp => true
  | _ => false

end Kind

/-- The kinds of blocks. -/
inductive BlockKind where
  /-- Applies to files whose name matches a pattern. -/
  | filesMatch
  /-- Applies to files of one name. -/
  | files
  /-- Applies if a module is loaded. -/
  | ifModule
  /-- Grants access if one of its children does. -/
  | requireAny
  /-- Grants access unless one of its children denies it. -/
  | requireAll
  /-- Applies to some request methods. -/
  | limit
  /-- Applies to all other request methods. -/
  | limitExcept
  deriving DecidableEq, Repr

namespace BlockKind

/-- All kinds of blocks. -/
def all : List BlockKind := [filesMatch, files, ifModule, requireAny, requireAll, limit, limitExcept]

/-- The name of a kind of block. -/
def name : BlockKind → Text
  | filesMatch => "files_match".toList
  | files => "files".toList
  | ifModule => "ifmodule".toList
  | requireAny => "require_any_open".toList
  | requireAll => "require_all_open".toList
  | limit => "limit".toList
  | limitExcept => "limit_except".toList

/-- The tag that opens and closes a block. -/
def tag : BlockKind → Text
  | filesMatch => "FilesMatch".toList
  | files => "Files".toList
  | ifModule => "IfModule".toList
  | requireAny => "RequireAny".toList
  | requireAll => "RequireAll".toList
  | limit => "Limit".toList
  | limitExcept => "LimitExcept".toList

/-- Whether blocks of the kind are Require nodes, which stay in place when conditions are resolved. -/
def isRequire : BlockKind → Bool
  | requireAny | requireAll => true
  | _ => false

end BlockKind

end HtGate
