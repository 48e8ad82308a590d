import DetectorDashboard.Http.Message
import DetectorDashboard.Text.Percent
import DetectorDashboard.Text.Pieces

/-!
Static files served under `/img`, such as the pictures of the lamps. A path names a file below the
served directory and cannot leave it; a directory is answered with its index page. Names are subject
to the limits of the file system.
-/

namespace DetectorDashboard.Http

structure AssetDirectory where
  /-- The path of the directory in the file system. -/
  location : String
  /-- The files of the directory and of those below it, each with its path from here and its
  content, or nothing if there is no such directory. -/
  files? : Option (List (String × String))

/-- Why the file system does not look for a name. -/
inductive UnusableName
  | nullCharacter
  | tooLong
deriving DecidableEq

namespace AssetDirectory

def contentTypes : List (String × String) :=
  [ ("png", "image/png"),
    ("txt", "text/plain"),
    ("html", "text/html"),
    ("htm", "text/html"),
    ("css", "text/css"),
    ("js", "text/javascript"),
    ("json", "application/json"),
    ("svg", "image/svg+xml"),
    ("ico", "image/x-icon"),
    ("gif", "image/gif"),
    ("jpg", "image/jpeg"),
    ("jpeg", "image/jpeg"),
    ("webp", "image/webp"),
    ("bmp", "image/bmp"),
    ("md", "text/markdown"),
    ("xml", "text/xml"),
    ("csv", "text/csv"),
    ("pdf", "application/pdf"),
    ("avif", "image/avif"),
    ("tif", "image/tiff"),
    ("tiff", "image/tiff"),
    ("log", "text/plain"),
    ("tsv", "text/tab-separated-values"),
    ("toml", "text/x-toml"),
    ("yaml", "text/x-yaml"),
    ("yml", "text/x-yaml"),
    ("mjs", "text/javascript"),
    ("xhtml", "application/xhtml+xml"),
    ("wasm", "application/wasm"),
    ("zip", "application/zip"),
    ("gz", "application/gzip"),
    ("tar", "application/x-tar"),
    ("ttf", "font/ttf"),
    ("otf", "font/otf"),
    ("woff", "font/woff"),
    ("woff2", "font/woff2"),
    ("mp3", "audio/mpeg"),
    ("wav", "audio/wav"),
    ("ogg", "audio/ogg"),
    ("mp4", "video/mp4"),
    ("webm", "video/webm") ]

/-- What follows the last point in the name of a file, unless the name begins with it. -/
def extension? (name : String) : Option String :=
  let base := ((name.toList.reverse.takeWhile (· ≠ '/')).reverse)
  let reversed := base.reverse
  match reversed.dropWhile (· ≠ '.') with
  | _ :: _ :: _ =>
    some (String.ofList ((reversed.takeWhile (· ≠ '.')).reverse.map Char.toLower))
  | _ => none

def contentType (name : String) : String :=
  ((extension? name).bind fun e => contentTypes.lookup e).getD "application/octet-stream"

/-- The names between the slashes of a path, without those that stand for their own place. A path
that leads upwards, or that starts again from the top, has none. -/
def components? (path : String) : Option (List String) :=
  let names := (Text.pieces (· = '/') path.toList).map String.ofList
  let names := names.filter fun n => n ≠ "" && n ≠ "."
  if ".." ∈ names ∨ path.toList.head? = some '/' then none else some names

/-- The names in an escaped path. -/
def names? (path : String) : Option (List String) :=
  (Text.Percent.strict? (String.ofList (path.toList.dropWhile (· = '/')))).bind components?

def file? (d : AssetDirectory) (names : List String) : Option (String × String) :=
  d.files?.bind (·.find? fun f => f.1 == "/".intercalate names)

def isDirectory (d : AssetDirectory) (names : List String) : Bool :=
  d.files?.any fun files =>
    names = [] || files.any fun f => ("/".intercalate names ++ "/").toList.isPrefixOf f.1.toList

/-- In bytes. -/
def longestName : Nat := 255

/-- In bytes, from the root of the file system. -/
def longestPath : Nat := 4095

/-- What keeps the file system from looking for the names, one inside the other. A name that is too
long is not noticed unless its place is reached. -/
def unusable? (d : AssetDirectory) (names : List String) : Option UnusableName :=
  if names.any fun n => '\x00' ∈ n.toList then some .nullCharacter
  else if longestPath < ("/".intercalate (d.location :: names)).utf8ByteSize then some .tooLong
  else match names.findIdx? fun n => longestName < n.utf8ByteSize with
    | some i => if d.isDirectory (names.take i) then some .tooLong else none
    | none => none

def found (file : String × String) : Response :=
  { status := 200, contentType := some (contentType file.1), body := file.2 }

def notFound : Response :=
  { status := 404 }

def failed : Response :=
  { status := 500 }

/-- A name with a null character fails only where nothing is to be opened. -/
def unusable (headOnly : Bool) : UnusableName → Response
  | .nullCharacter => if headOnly then failed else notFound
  | .tooLong => failed

/-- The answer to a request for a directory: its index page, or the way to its path with a slash at
the end. -/
def index (d : AssetDirectory) (target : Target) (path : String) (names : List String) :
    Response :=
  if path.toList.getLast? = some '/' then
    ((d.file? (names ++ ["index.html"])).map found).getD notFound
  else { status := 307, location := some (target.origin ++ path ++ "/" ++ target.query) }

/-- The answer to a request for a path within the directory. -/
def lookUp (d : AssetDirectory) (headOnly : Bool) (target : Target) (path : String) : Response :=
  match names? path with
  | none => notFound
  | some names =>
    match d.unusable? names with
    | some cause => unusable headOnly cause
    | none =>
      match d.file? names with
      | some file => found file
      | none => if d.isDirectory names then d.index target path names else notFound

end AssetDirectory

/-- The path within the served directory, if a request is for one of its files. A slash after the
one that ends `/img/` begins that path, otherwise it begins with a slash of its own. -/
def assetPath? (target : Target) : Option String :=
  let path := target.path.toList
  if path = "/img".toList then some "/"
  else if "/img/".toList.isPrefixOf path then
    let rest := path.drop 5
    some (String.ofList (if rest.head? = some '/' then rest else '/' :: rest))
  else none

/-- The answer to a request for a file. -/
def serveAsset (directory : AssetDirectory) (r : Request) (path : String) : Response :=
  if r.method = .get ∨ r.method = .head then
    directory.lookUp (r.method == .head) r.target path
  else { status := 405, allow := some "GET,HEAD" }

end DetectorDashboard.Http
