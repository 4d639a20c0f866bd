/-!
# Input and output errors — what the system reports

An error of the operating system is its number, told by the system's own text
for it. The other causes never reach the system: they are found in the data or
made by this library.
-/

namespace DeviceLink

/-- The system's texts for its error numbers, from 1 on. An unused number has
none. -/
def systemTexts : List String :=
  ["Operation not permitted", "No such file or directory", "No such process",
   "Interrupted system call", "Input/output error", "No such device or address",
   "Argument list too long", "Exec format error", "Bad file descriptor", "No child processes",
   "Resource temporarily unavailable", "Cannot allocate memory", "Permission denied",
   "Bad address", "Block device required", "Device or resource busy", "File exists",
   "Invalid cross-device link", "No such device", "Not a directory", "Is a directory",
   "Invalid argument", "Too many open files in system", "Too many open files",
   "Inappropriate ioctl for device", "Text file busy", "File too large",
   "No space left on device", "Illegal seek", "Read-only file system", "Too many links",
   "Broken pipe", "Numerical argument out of domain", "Numerical result out of range",
   "Resource deadlock avoided", "File name too long", "No locks available",
   "Function not implemented", "Directory not empty", "Too many levels of symbolic links", "",
   "No message of desired type", "Identifier removed", "Channel number out of range",
   "Level 2 not synchronized", "Level 3 halted", "Level 3 reset", "Link number out of range",
   "Protocol driver not attached", "No CSI structure available", "Level 2 halted",
   "Invalid exchange", "Invalid request descriptor", "Exchange full", "No anode",
   "Invalid request code", "Invalid slot", "", "Bad font file format", "Device not a stream",
   "No data available", "Timer expired", "Out of streams resources",
   "Machine is not on the network", "Package not installed", "Object is remote",
   "Link has been severed", "Advertise error", "Srmount error", "Communication error on send",
   "Protocol error", "Multihop attempted", "RFS specific error", "Bad message",
   "Value too large for defined data type", "Name not unique on network",
   "File descriptor in bad state", "Remote address changed",
   "Can not access a needed shared library", "Accessing a corrupted shared library",
   ".lib section in a.out corrupted", "Attempting to link in too many shared libraries",
   "Cannot exec a shared library directly", "Invalid or incomplete multibyte or wide character",
   "Interrupted system call should be restarted", "Streams pipe error", "Too many users",
   "Socket operation on non-socket", "Destination address required", "Message too long",
   "Protocol wrong type for socket", "Protocol not available", "Protocol not supported",
   "Socket type not supported", "Operation not supported", "Protocol family not supported",
   "Address family not supported by protocol", "Address already in use",
   "Cannot assign requested address", "Network is down", "Network is unreachable",
   "Network dropped connection on reset", "Software caused connection abort",
   "Connection reset by peer", "No buffer space available",
   "Transport endpoint is already connected", "Transport endpoint is not connected",
   "Cannot send after transport endpoint shutdown", "Too many references: cannot splice",
   "Connection timed out", "Connection refused", "Host is down", "No route to host",
   "Operation already in progress", "Operation now in progress", "Stale file handle",
   "Structure needs cleaning", "Not a XENIX named type file", "No XENIX semaphores available",
   "Is a named type file", "Remote I/O error", "Disk quota exceeded", "No medium found",
   "Wrong medium type", "Operation canceled", "Required key not available", "Key has expired",
   "Key has been revoked", "Key was rejected by service", "Owner died", "State not recoverable",
   "Operation not possible due to RF-kill", "Memory page has hardware error"]

/-- Why an operation on a file, a socket or a process failed. -/
inductive IoError
  /-- The operating system refused it. -/
  | system (number : Nat)
  /-- The listening socket was closed. -/
  | socketClosed
  /-- The stream ended before enough was read. -/
  | streamEnded
  /-- An argument holds the character that ends one. -/
  | nulInArgument
  /-- The file's bytes are no text. -/
  | notUtf8
  /-- A cause told by its own text. -/
  | told (text : String)
  deriving DecidableEq, Repr

namespace IoError

/-- How the error is told to a user. -/
def message : IoError → String
  | .system number =>
    let text :=
      match number with
      | 0 => "Success"
      | n + 1 =>
        match systemTexts[n]? with
        | some "" | none => s!"Unknown error {number}"
        | some text => text
    s!"{text} (os error {number})"
  | .socketClosed => "listening socket closed"
  | .streamEnded => "early eof"
  | .nulInArgument => "nul byte found in provided data"
  | .notUtf8 => "stream did not contain valid UTF-8"
  | .told text => text

/-- There is no such file. -/
@[match_pattern] def notFound : IoError := .system 2

/-- The file may not be used so. -/
def permissionDenied : IoError := .system 13

/-- Something of that name is there. -/
def alreadyExists : IoError := .system 17

/-- A directory is needed and there is none. -/
def notADirectory : IoError := .system 20

/-- A directory is there. -/
def isADirectory : IoError := .system 21

/-- Someone listens on the port. -/
def addressInUse : IoError := .system 98

/-- The other side reset the connection. -/
def connectionReset : IoError := .system 104

/-- Nobody listens on the port. -/
def connectionRefused : IoError := .system 111

end IoError

end DeviceLink
