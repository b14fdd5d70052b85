/-!
# Errors of the operating system

Why the operating system refuses a request: a numbered error with its fixed description, or an error
of another origin that is only a text.
-/

namespace CrossGen

/-- Why a request to the operating system failed. -/
inductive IoError where
  | os (code : Int)
  | other (text : String)
deriving DecidableEq, Repr

namespace IoError

def notFound : IoError := .os 2
def noSuchDevice : IoError := .os 6
def notRunnable : IoError := .os 8
def accessDenied : IoError := .os 13
def alreadyExists : IoError := .os 17
def notDirectory : IoError := .os 20
def isDirectory : IoError := .os 21
def noSpace : IoError := .os 28
def nameTooLong : IoError := .os 36
def tooManyLinks : IoError := .os 40

/-- Bytes that were to be read as text are not valid UTF-8. -/
def notText : IoError := .other "stream did not contain valid UTF-8"

/-- There is no memory for all that was to be read. -/
def outOfMemory : IoError := .other "out of memory"

/-- A path holds a NUL character. -/
def nulInPath : IoError := .other "file name contained an unexpected NUL byte"

/-- A command holds a NUL character. -/
def nulInCommand : IoError := .other "nul byte found in provided data"

/-- The descriptions of the numbered errors, from number 0 on. Two of the numbers are not in use. -/
def descriptions : List String :=
  ["Success", "Operation not permitted", "No such file or directory", "No such process",
    "Interrupted system call", "Input/output error", "No such device or address",
    "Argument list too long", "Exec format error", "Bad file descriptor", "No child processes",
    "Resource temporarily unavailable", "Cannot allocate memory", "Permission denied",
    "Bad address", "Block device required", "Device or resource busy", "File exists",
    "Invalid cross-device link", "No such device", "Not a directory", "Is a directory",
    "Invalid argument", "Too many open files in system", "Too many open files",
    "Inappropriate ioctl for device", "Text file busy", "File too large", "No space left on device",
    "Illegal seek", "Read-only file system", "Too many links", "Broken pipe",
    "Numerical argument out of domain", "Numerical result out of range",
    "Resource deadlock avoided", "File name too long", "No locks available",
    "Function not implemented", "Directory not empty", "Too many levels of symbolic links",
    "Unknown error 41", "No message of desired type", "Identifier removed",
    "Channel number out of range", "Level 2 not synchronized", "Level 3 halted", "Level 3 reset",
    "Link number out of range", "Protocol driver not attached", "No CSI structure available",
    "Level 2 halted", "Invalid exchange", "Invalid request descriptor", "Exchange full", "No anode",
    "Invalid request code", "Invalid slot", "Unknown error 58", "Bad font file format",
    "Device not a stream", "No data available", "Timer expired", "Out of streams resources",
    "Machine is not on the network", "Package not installed", "Object is remote",
    "Link has been severed", "Advertise error", "Srmount error", "Communication error on send",
    "Protocol error", "Multihop attempted", "RFS specific error", "Bad message",
    "Value too large for defined data type", "Name not unique on network",
    "File descriptor in bad state", "Remote address changed",
    "Can not access a needed shared library", "Accessing a corrupted shared library",
    ".lib section in a.out corrupted", "Attempting to link in too many shared libraries",
    "Cannot exec a shared library directly", "Invalid or incomplete multibyte or wide character",
    "Interrupted system call should be restarted", "Streams pipe error", "Too many users",
    "Socket operation on non-socket", "Destination address required", "Message too long",
    "Protocol wrong type for socket", "Protocol not available", "Protocol not supported",
    "Socket type not supported", "Operation not supported", "Protocol family not supported",
    "Address family not supported by protocol", "Address already in use",
    "Cannot assign requested address", "Network is down", "Network is unreachable",
    "Network dropped connection on reset", "Software caused connection abort",
    "Connection reset by peer", "No buffer space available",
    "Transport endpoint is already connected", "Transport endpoint is not connected",
    "Cannot send after transport endpoint shutdown", "Too many references: cannot splice",
    "Connection timed out", "Connection refused", "Host is down", "No route to host",
    "Operation already in progress", "Operation now in progress", "Stale file handle",
    "Structure needs cleaning", "Not a XENIX named type file", "No XENIX semaphores available",
    "Is a named type file", "Remote I/O error", "Disk quota exceeded", "No medium found",
    "Wrong medium type", "Operation canceled", "Required key not available", "Key has expired",
    "Key has been revoked", "Key was rejected by service", "Owner died", "State not recoverable",
    "Operation not possible due to RF-kill", "Memory page has hardware error"]

def description (code : Int) : String :=
  let known := if code < 0 then none else descriptions[code.toNat]?
  known.getD ("Unknown error " ++ toString code)

/-- The text in which an error is reported. -/
def message : IoError → String
  | .os code => description code ++ " (os error " ++ toString code ++ ")"
  | .other text => text

end IoError

end CrossGen
