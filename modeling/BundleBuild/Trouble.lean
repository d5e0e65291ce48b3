/-
Everything that can end an operation early: the library's own faults, refusals of the file
system, data of the wrong shape, and what callers' own functions raise. Each has a kind and a
text; both are recorded when a compilation fails. Two things that callers raise are not handled as
errors are: an exit is passed on, and an error without words turns into what asking for its words
ends in (`Trouble.unhandled?`).
-/
import BundleBuild.Fault

namespace BundleBuild

/-- Why the file system refuses. -/
inductive SystemCause where
  | notFound
  | argumentTooLong
  | execFormat
  | badDescriptor
  | permission
  | exists
  | notDirectory
  | isDirectory
  | nameTooLong
  | tooManyLinks
  /-- A text with a NUL byte, which the system is never asked about. -/
  | nullByte
  deriving DecidableEq, Repr

namespace SystemCause

/-- The number the system gives its refusal. -/
def number? : SystemCause → Option Nat
  | .notFound => some 2
  | .argumentTooLong => some 7
  | .execFormat => some 8
  | .badDescriptor => some 9
  | .permission => some 13
  | .exists => some 17
  | .notDirectory => some 20
  | .isDirectory => some 21
  | .nameTooLong => some 36
  | .tooManyLinks => some 40
  | .nullByte => none

def words : SystemCause → String
  | .notFound => "No such file or directory"
  | .argumentTooLong => "Argument list too long"
  | .execFormat => "Exec format error"
  | .badDescriptor => "Bad file descriptor"
  | .permission => "Permission denied"
  | .exists => "File exists"
  | .notDirectory => "Not a directory"
  | .isDirectory => "Is a directory"
  | .nameTooLong => "File name too long"
  | .tooManyLinks => "Too many levels of symbolic links"
  | .nullByte => "embedded null byte"

def kind : SystemCause → String
  | .notFound => "FileNotFoundError"
  | .permission => "PermissionError"
  | .exists => "FileExistsError"
  | .notDirectory => "NotADirectoryError"
  | .isDirectory => "IsADirectoryError"
  | .nullByte => "ValueError"
  | _ => "OSError"

/-- The refusal with what it is about, already quoted. -/
def text (c : SystemCause) (subject : String) : String :=
  match c.number? with
  | some n => "[Errno " ++ Nat.repr n ++ "] " ++ c.words ++ ": " ++ subject
  | none => c.words

/-- Whether a look-up that was refused only shows that nothing is there. -/
def meansAbsent : SystemCause → Bool
  | .notFound => true
  | .notDirectory => true
  | .tooManyLinks => true
  | .nullByte => true
  | _ => false

end SystemCause

/-- Why a time limit cannot be kept. -/
inductive LimitFlaw where
  | notNumber (kind : String)
  /-- A whole number beyond every double. -/
  | beyondDouble
  | infinite
  | notANumber
  /-- More thousandths of a second than the clock counts. -/
  | beyondClock
  /-- More thousandths of a second than one wait may take. -/
  | beyondWait
  deriving DecidableEq, Repr

namespace LimitFlaw

def kind : LimitFlaw → String
  | .notNumber _ => "TypeError"
  | .notANumber => "ValueError"
  | _ => "OverflowError"

def message : LimitFlaw → String
  | .notNumber kind => "unsupported operand type(s) for +: 'float' and '" ++ kind ++ "'"
  | .beyondDouble => "int too large to convert to float"
  | .infinite => "cannot convert float infinity to integer"
  | .notANumber => "cannot convert float NaN to integer"
  | .beyondClock => "timestamp too large to convert to C _PyTime_t"
  | .beyondWait => "timeout is too large"

end LimitFlaw

inductive Trouble where
  /-- A fault of the library's own. -/
  | fault (f : Fault)
  /-- The file system refused; the subject is quoted. -/
  | system (cause : SystemCause) (subject : String)
  /-- Data of the wrong shape. -/
  | invalid (problems : List Problem)
  /-- A define or a flag that cannot be set or listed. -/
  | badOption (flaw : OptionFlaw)
  /-- A define of a kind that no literal can be written for. -/
  | noLiteral (kind : String)
  /-- A define of bytes or of a day, which are not written as texts are. -/
  | badLiteral (text : String)
  /-- A compiler command without words. -/
  | emptyCommand
  /-- A time limit that cannot be kept. -/
  | badLimit (flaw : LimitFlaw)
  /-- A worker pool of fewer than one worker. -/
  | emptyPool
  /-- A file that is not well-formed text. -/
  | undecodable (e : Utf8Error)
  /-- A datum that is no member of a closed set. -/
  | noMember (given : Datum) (set : String)
  /-- A log level that is none. -/
  | unknownLevel (name : String)
  /-- A log level that is no name and no number of one. -/
  | badLevel (kind text : String)
  /-- A field of a span that is called as the logger itself; `settled` loggers were used before. -/
  | reservedField (settled : Bool)
  /-- A value of a kind that lacks what is asked of it. -/
  | lacks (kind feature : String)
  /-- A value that cannot be looked up. -/
  | unhashable (kind : String)
  /-- A value of a kind that does not fit where it is used. -/
  | misfit (text : String)
  /-- An error raised from outside the library: by a caller's function, by a module that cannot be
  loaded. -/
  | raised (kind text : String)
  /-- An error of a caller's own that has no words: asking for them ends in other trouble. -/
  | mute (kind : String) (asked : Trouble)
  /-- What a caller raises that is no error, and that no handler of errors takes: an exit, an
  interrupt. -/
  | exit (kind text : String)

namespace Trouble

def kind : Trouble → String
  | .fault f => f.kind
  | .system c _ => c.kind
  | .invalid _ => "ValidationError"
  | .badOption flaw => match flaw with
    | .namelessDefine => "ValueError"
    | .notMapping _ => "TypeError"
    | .noEntries _ => "AttributeError"
  | .noLiteral _ => "AttributeError"
  | .badLiteral _ => "TypeError"
  | .emptyCommand => "IndexError"
  | .badLimit flaw => flaw.kind
  | .emptyPool => "ValueError"
  | .undecodable _ => "UnicodeDecodeError"
  | .noMember _ _ => "ValueError"
  | .unknownLevel _ => "AttributeError"
  | .badLevel kind _ => kind
  | .reservedField _ => "TypeError"
  | .lacks _ _ => "AttributeError"
  | .unhashable _ => "TypeError"
  | .misfit _ => "TypeError"
  | .raised kind _ => kind
  | .mute kind _ => kind
  | .exit kind _ => kind

def text : Trouble → String
  | .fault f => f.message
  | .system c subject => c.text subject
  | .invalid problems => "\n".intercalate (problems.map fun p => p.place ++ ": " ++ p.flaw.message)
  | .badOption flaw => match flaw with
    | .namelessDefine => "define name must not be empty"
    | .notMapping kind => "'" ++ kind ++ "' object is not a mapping"
    | .noEntries kind => "'" ++ kind ++ "' object has no attribute 'items'"
  | .noLiteral kind => "'" ++ kind ++ "' object has no attribute 'replace'"
  | .badLiteral text => text
  | .emptyCommand => "tuple index out of range"
  | .badLimit flaw => flaw.message
  | .emptyPool => "max_workers must be greater than 0"
  | .undecodable e => e.message
  | .noMember given set => given.quoted ++ " is not a valid " ++ set
  | .unknownLevel name => "module 'logging' has no attribute '" ++ name ++ "'"
  | .badLevel _ text => text
  | .reservedField settled =>
    (if settled then "BoundLogger" else "BoundLoggerLazyProxy") ++
      ".bind() got multiple values for argument 'self'"
  | .lacks kind feature => "'" ++ kind ++ "' object has no attribute '" ++ feature ++ "'"
  | .unhashable kind => "unhashable type: '" ++ kind ++ "'"
  | .misfit text => text
  | .raised _ text => text
  | .mute _ _ => ""
  | .exit _ text => text

/-- What comes through a handler of errors that puts them into words: an exit as it is, and for
trouble without words what asking for them ends in. -/
def unhandled? : Trouble → Option Trouble
  | .mute _ asked => some asked
  | .exit kind text => some (.exit kind text)
  | _ => none

/-- The trouble as it is after it has passed through a handler that raises it again. -/
def surfaced (t : Trouble) : Trouble :=
  t.unhandled?.getD t

/-- The refusal of a path. -/
def atPath (c : SystemCause) (p : Path) : Trouble :=
  .system c (quoteText p.text)

end Trouble

/-- What a datum goes through when it is gone through one by one. -/
def Datum.elements (d : Datum) : Except Trouble (List Datum) :=
  match d with
  | .list items => .ok items
  | .tuple items => .ok items
  | .map entries => .ok (entries.map (·.1))
  | .bytes bs => .ok (bs.map fun b => .int b.toNat)
  | _ => match d.text? with
    | some s => .ok (s.toList.map fun c => .text c.toString)
    | none => .error (.misfit ("'" ++ d.kind ++ "' object is not iterable"))

/-- Why a datum cannot be looked up. -/
def Datum.lookupTrouble? (d : Datum) : Option Trouble :=
  match d with
  | .list _ => some (.unhashable d.kind)
  | .map _ => some (.unhashable d.kind)
  | _ => none

end BundleBuild
