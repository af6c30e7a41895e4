import HtGate.Text.Decimal
import HtGate.Text.Quoted
/-!
# Faults

Why an operation gives no result. A fault is a cause; its wording is in one function, and its
category says which part of the outside it blames.
-/

namespace HtGate

/-- The cause why an operation gives no result. -/
inductive Fault where
  /-- A run of digits holds one that is no decimal digit. -/
  | notDecimal (numeral : Text)
  /-- A numeral of this many digits is too long to be read. -/
  | numeralTooLong (digits : Nat)
  /-- A number has too many digits to be written. -/
  | numberTooLong
  /-- A prefix length is longer than an address. -/
  | prefixTooLong
  /-- A directive of this kind has no written form. -/
  | noWrittenForm (kind : Text)
  /-- A directive lacks the details that its kind calls for, or a needed value is absent. -/
  | missingDetail
  /-- A text is needed where there is none. -/
  | missingText
  /-- Credentials hold a character beyond ASCII. -/
  | credentialsNotAscii
  /-- A path holds the character U+0000. -/
  | nulInPath
  /-- A date falls outside the years 1 to 9999. -/
  | yearOutOfRange (year : Int)
  /-- A date has a year too large to be represented. -/
  | dateTooLarge
  /-- A number of seconds is too large to be added to the clock. -/
  | secondsTooLarge
  /-- A point in time is too large for the clock. -/
  | clockOverflow
  /-- A pattern asks for more repetitions than can be counted. -/
  | repetitionTooLarge
  /-- A pattern asks for ASCII alone and for all scripts. -/
  | patternFlags
  /-- A path is needed where there is none. -/
  | missingPath
  /-- There is no file at the path. -/
  | noSuchFile (path : Text)
  /-- There is no configuration file at the path. -/
  | configMissing (path : Text)
  /-- A directory stands where a file is to be opened. -/
  | isDirectory (path : Text)
  /-- A path, or a name in it, is too long. -/
  | nameTooLong (path : Text)
  /-- A path leads through something that is no directory. -/
  | notADirectory (path : Text)
  /-- What is at the path is no directory. -/
  | directoryExpected (path : Text)
  /-- A file stands where a directory is to be made. -/
  | fileExists (path : Text)
  /-- A directory was given as a configuration file. -/
  | directoryAsConfig (path : Text)
  /-- A configuration file is empty. -/
  | configEmpty (path : Text)
  /-- A configuration file is larger than the limit. -/
  | configTooLarge (limit : Int) (path : Text)
  /-- A configuration file is not UTF-8. -/
  | configNotUtf8 (path : Text)
  /-- A configuration text is larger than the limit. -/
  | contentTooLarge (limit : Int)
  /-- No directives were found on the way from a root to a target. -/
  | nothingFound (root : Text) (target : Option Text)
  /-- An upload names no file. -/
  | noFileSelected
  /-- An uploaded file is not UTF-8. -/
  | uploadNotUtf8
  /-- A request brings no configuration. -/
  | noConfiguration
  /-- A request does not name the client's address. -/
  | missingClientIp
  /-- Something stands too deep in something else. -/
  | nestedTooDeep
  /-- A form has too many parts, or a part too many bytes. -/
  | formTooLarge
  deriving DecidableEq, Repr

namespace Fault

/-- What a fault blames. -/
inductive Category where
  /-- A value that is not acceptable. -/
  | value
  /-- A part of a value that is absent. -/
  | attribute
  /-- A value of the wrong type. -/
  | type
  /-- A number beyond the machine's range. -/
  | overflow
  /-- The system, with no finer category. -/
  | system
  /-- A file that is not there. -/
  | fileNotFound
  /-- A directory in place of a file. -/
  | isADirectory
  /-- A file in place of a directory. -/
  | notADirectory
  /-- A file that is there already. -/
  | fileExists
  /-- Things that stand too deep in one another. -/
  | nesting
  deriving DecidableEq, Repr

/-- The category of a fault. -/
def category : Fault → Category
  | missingDetail => .attribute
  | missingText | missingPath => .type
  | dateTooLarge | nameTooLong _ | formTooLarge => .system
  | secondsTooLarge | clockOverflow | repetitionTooLarge => .overflow
  | noSuchFile _ | configMissing _ => .fileNotFound
  | isDirectory _ => .isADirectory
  | Fault.notADirectory _ | directoryExpected _ => .notADirectory
  | Fault.fileExists _ => .fileExists
  | nestedTooDeep => .nesting
  | _ => .value

/-- The first 200 characters of a quoted text, which is what a message about a numeral shows. -/
def shown (t : Text) : Text := (Text.quoted t).take 200

/-- The wording of a fault. -/
def message : Fault → Text
  | notDecimal numeral => "invalid literal for int() with base 10: ".toList ++ shown numeral
  | numeralTooLong digits =>
    "Exceeds the limit (4300 digits) for integer string conversion: value has ".toList
      ++ Text.ofNat digits
      ++ " digits; use sys.set_int_max_str_digits() to increase the limit".toList
  | numberTooLong =>
    ("Exceeds the limit (4300 digits) for integer string conversion; use ".toList
      ++ "sys.set_int_max_str_digits() to increase the limit".toList)
  | prefixTooLong => "negative shift count".toList
  | noWrittenForm kind => "Cannot print directive type: ".toList ++ kind
  | missingDetail => "a detail of the directive is missing".toList
  | missingText => "a text is missing".toList
  | credentialsNotAscii => "string argument should contain only ASCII characters".toList
  | nulInPath => "embedded null byte".toList
  | yearOutOfRange year => "year ".toList ++ Text.ofInt year ++ " is out of range".toList
  | dateTooLarge => "[Errno 75] Value too large for defined data type".toList
  | secondsTooLarge => "int too large to convert to float".toList
  | clockOverflow => "timestamp out of range for platform time_t".toList
  | repetitionTooLarge => "the repetition number is too large".toList
  | patternFlags => "ASCII and UNICODE flags are incompatible".toList
  | missingPath => "expected str, bytes or os.PathLike object, not NoneType".toList
  | noSuchFile path => "[Errno 2] No such file or directory: ".toList ++ Text.quoted path
  | configMissing path => ".htaccess not found: ".toList ++ path
  | isDirectory path => "[Errno 21] Is a directory: ".toList ++ Text.quoted path
  | nameTooLong path => "[Errno 36] File name too long: ".toList ++ Text.quoted path
  | Fault.notADirectory path => "[Errno 20] Not a directory: ".toList ++ Text.quoted path
  | directoryExpected path => "Not a directory: ".toList ++ path
  | Fault.fileExists path => "[Errno 17] File exists: ".toList ++ Text.quoted path
  | directoryAsConfig path => "Expected an .htaccess file, got a directory: ".toList ++ path
  | configEmpty path => ".htaccess is empty: ".toList ++ path
  | configTooLarge limit path =>
    ".htaccess larger than ".toList ++ Text.ofInt limit ++ " bytes: ".toList ++ path
  | configNotUtf8 path => ".htaccess is not valid UTF-8 text: ".toList ++ path
  | contentTooLarge limit =>
    "Content exceeds maximum size (".toList ++ Text.ofInt limit ++ " bytes)".toList
  | nothingFound root target =>
    "No .htaccess directives found between ".toList ++ root ++ " and ".toList
      ++ target.getD "None".toList
  | noFileSelected => "No file selected".toList
  | uploadNotUtf8 => "Uploaded file is not valid UTF-8".toList
  | noConfiguration =>
    "No configuration provided (upload 'config_file' or send 'content')".toList
  | missingClientIp => "Missing client 'ip'".toList
  | nestedTooDeep => "maximum recursion depth exceeded".toList
  | formTooLarge => "the form is too large".toList

/-- Reads a numeral; a failure names the numeral. -/
def readNumeral (t : Text) : Except Fault Nat :=
  match Text.toNat t with
  | .ok n => .ok n
  | .error .notDecimal => .error (.notDecimal t)
  | .error (.tooLong digits) => .error (.numeralTooLong digits)

/-- The digits of an integer, unless it has too many. -/
def writeNumeral (n : Int) : Except Fault Text :=
  if Text.maxDigits < (Text.ofNat n.natAbs).length then .error .numberTooLong
  else .ok (Text.ofInt n)

end Fault

end HtGate
