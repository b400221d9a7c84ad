import Stencil.Text.Basic

/-!
# Packages that files may import

The packages whose types a signature may name, each with the names of its types. A package is known by the last part
of its path.
-/

namespace Stencil.Declaration

structure Package where
  path : Text
  types : List Text

def Package.name (p : Package) : Text := (p.path.split '/').getLastD []

def package (path : String) (types : List String) : Package := ⟨path, types.map Text.ofString⟩

def packages : List Package :=
  [package "bytes" ["Buffer", "Reader"],
    package "context" ["CancelCauseFunc", "CancelFunc", "Context"],
    package "database/sql" ["ColumnType", "Conn", "DB", "DBStats", "IsolationLevel", "NamedArg", "Null", "NullBool",
      "NullByte", "NullFloat64", "NullInt16", "NullInt32", "NullInt64", "NullString", "NullTime", "Out", "RawBytes",
      "Result", "Row", "Rows", "Scanner", "Stmt", "Tx", "TxOptions"],
    package "encoding/json" ["Decoder", "Delim", "Encoder", "InvalidUTF8Error", "InvalidUnmarshalError", "Marshaler",
      "MarshalerError", "Number", "RawMessage", "SyntaxError", "Token", "UnmarshalFieldError", "UnmarshalTypeError",
      "Unmarshaler", "UnsupportedTypeError", "UnsupportedValueError"],
    package "io" ["ByteReader", "ByteScanner", "ByteWriter", "Closer", "LimitedReader", "OffsetWriter", "PipeReader",
      "PipeWriter", "ReadCloser", "ReadSeekCloser", "ReadSeeker", "ReadWriteCloser", "ReadWriteSeeker", "ReadWriter",
      "Reader", "ReaderAt", "ReaderFrom", "RuneReader", "RuneScanner", "SectionReader", "Seeker", "StringWriter",
      "WriteCloser", "WriteSeeker", "Writer", "WriterAt", "WriterTo"],
    package "math/big" ["Accuracy", "ErrNaN", "Float", "Int", "Rat", "RoundingMode", "Word"],
    package "net/http" ["Client", "CloseNotifier", "ConnState", "Cookie", "CookieJar", "Dir", "File", "FileSystem",
      "Flusher", "Handler", "HandlerFunc", "Header", "Hijacker", "MaxBytesError", "ProtocolError", "PushOptions",
      "Pusher", "Request", "Response", "ResponseController", "ResponseWriter", "RoundTripper", "SameSite", "ServeMux",
      "Server", "Transport"],
    package "net/url" ["Error", "EscapeError", "InvalidHostError", "URL", "Userinfo", "Values"],
    package "os" ["DirEntry", "File", "FileInfo", "FileMode", "LinkError", "PathError", "ProcAttr", "Process",
      "ProcessState", "Signal", "SyscallError"],
    package "strings" ["Builder", "Reader", "Replacer"],
    package "sync" ["Cond", "Locker", "Map", "Mutex", "Once", "Pool", "RWMutex", "WaitGroup"],
    package "time" ["Duration", "Location", "Month", "ParseError", "Ticker", "Time", "Timer", "Weekday"]]

def isVisible (t : Text) : Bool :=
  match t with
  | .char c :: _ => c.isUpper
  | _ => false

/-- The paths of the packages that the members need: those that have all types looked for in them. -/
def neededPaths (members : List (Text × Text)) : List Text :=
  (packages.filter fun p =>
    let wanted := (members.filter fun (name, t) => name = p.name && isVisible t).map Prod.snd
    !wanted.isEmpty && wanted.all (· ∈ p.types)).map Package.path

end Stencil.Declaration
