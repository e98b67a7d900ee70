import Refactory.Rewrite
import Refactory.Text.Lower

/-! # The order of imports

Each run of top-level imports is put in order: imports from `__future__`, the standard library, other
modules, then relative ones; within a group by name without regard to case. Equals keep their order,
and nothing moves across another statement.

* `Stmt.importGroup`: the group of an import.
* `sortImports`: the change. -/

namespace Refactory

/-- The modules of the standard library. -/
def standardModules : List String := List.flatMap (·.splitOn " ") [
  "__future__ _abc _aix_support _ast _asyncio _bisect _blake2 _bootsubprocess _bz2 _codecs",
  "_codecs_cn _codecs_hk _codecs_iso2022 _codecs_jp _codecs_kr _codecs_tw _collections",
  "_collections_abc _compat_pickle _compression _contextvars _crypt _csv _ctypes _curses",
  "_curses_panel _datetime _dbm _decimal _elementtree _frozen_importlib",
  "_frozen_importlib_external _functools _gdbm _hashlib _heapq _imp _io _json _locale _lsprof",
  "_lzma _markupbase _md5 _msi _multibytecodec _multiprocessing _opcode _operator _osx_support",
  "_overlapped _pickle _posixshmem _posixsubprocess _py_abc _pydecimal _pyio _queue _random",
  "_scproxy _sha1 _sha256 _sha3 _sha512 _signal _sitebuiltins _socket _sqlite3 _sre _ssl _stat",
  "_statistics _string _strptime _struct _symtable _thread _threading_local _tkinter _tokenize",
  "_tracemalloc _typing _uuid _warnings _weakref _weakrefset _winapi _zoneinfo abc aifc",
  "antigravity argparse array ast asynchat asyncio asyncore atexit audioop base64 bdb binascii",
  "bisect builtins bz2 cProfile calendar cgi cgitb chunk cmath cmd code codecs codeop",
  "collections colorsys compileall concurrent configparser contextlib contextvars copy copyreg",
  "crypt csv ctypes curses dataclasses datetime dbm decimal difflib dis distutils doctest email",
  "encodings ensurepip enum errno faulthandler fcntl filecmp fileinput fnmatch fractions ftplib",
  "functools gc genericpath getopt getpass gettext glob graphlib grp gzip hashlib heapq hmac",
  "html http idlelib imaplib imghdr imp importlib inspect io ipaddress itertools json keyword",
  "lib2to3 linecache locale logging lzma mailbox mailcap marshal math mimetypes mmap",
  "modulefinder msilib msvcrt multiprocessing netrc nis nntplib nt ntpath nturl2path numbers",
  "opcode operator optparse os ossaudiodev pathlib pdb pickle pickletools pipes pkgutil",
  "platform plistlib poplib posix posixpath pprint profile pstats pty pwd py_compile pyclbr",
  "pydoc pydoc_data pyexpat queue quopri random re readline reprlib resource rlcompleter runpy",
  "sched secrets select selectors shelve shlex shutil signal site smtpd smtplib sndhdr socket",
  "socketserver spwd sqlite3 sre_compile sre_constants sre_parse ssl stat statistics string",
  "stringprep struct subprocess sunau symtable sys sysconfig syslog tabnanny tarfile telnetlib",
  "tempfile termios textwrap this threading time timeit tkinter token tokenize tomllib trace",
  "traceback tracemalloc tty turtle turtledemo types typing unicodedata unittest urllib uu uuid",
  "venv warnings wave weakref webbrowser winreg winsound wsgiref xdrlib xml xmlrpc zipapp",
  "zipfile zipimport zlib zoneinfo"]

/-- The groups of imports, in order. -/
inductive ImportGroup
  | future | standard | other | relative
deriving DecidableEq, Inhabited

/-- The place of a group in the order. -/
def ImportGroup.rank : ImportGroup → Nat
  | future => 0 | standard => 1 | other => 2 | relative => 3

/-- The group of an absolute import by the name of its module. -/
def ImportGroup.ofName (name : Text) : ImportGroup :=
  let top := name.before '.'
  if top = "__future__" then future
  else if standardModules.any (fun m => Text.ofString m == top) then standard
  else other

/-- The group of an import. Without a name there is none. -/
def Stmt.importGroup : Stmt → Except Fault ImportGroup
  | .importFrom module _ level _ =>
    .ok (if level ≠ 0 then .relative else .ofName (module.getD []))
  | .importNames [] _ => .error .outOfRange
  | .importNames (a :: _) _ => .ok (.ofName a.name)
  | s => .error (.noNames s.variant)

/-- The name by which an import is ordered. -/
def Stmt.importName : Stmt → Text
  | .importFrom module _ level _ => Text.times level.toNat "." ++ module.getD []
  | .importNames (a :: _) _ => a.name
  | _ => []

/-- The key by which an import is ordered: its group, then its name in lower case. -/
def Stmt.importKey (s : Stmt) : Except Fault (Nat × Text) := do
  return ((← s.importGroup).rank, s.importName.lower)

/-- Whether a key stands before another or equals it. -/
def keyLe (a b : Nat × Text) : Bool := a.1 < b.1 || (a.1 == b.1 && a.2.le b.2)

/-- Whether keys do not decrease. -/
def keysOrdered : List (Nat × Text) → Bool
  | a :: b :: rest => keyLe a b && keysOrdered (b :: rest)
  | _ => true

/-- A run of imports in order, and whether that changed it. -/
def sortRun (run : List Stmt) : Except Fault (List Stmt × Bool) := do
  let keys ← run.mapM Stmt.importKey
  if keysOrdered keys then return (run, false)
  else
    let sorted := (keys.zip run).mergeSort fun a b => keyLe a.1 b.1
    return (sorted.map (·.2), true)

/-- Orders the runs of a block; `run` is the one being read, in reverse. Reports how many changed.
After a fault the rest stays as it is. -/
def sortRuns (run : List Stmt) : List Stmt → Block × Except Fault Nat
  | [] =>
    match sortRun run.reverse with
    | .ok (sorted, changed) => (sorted, .ok (if changed then 1 else 0))
    | .error f => (run.reverse, .error f)
  | s :: rest =>
    if s.isImport then sortRuns (s :: run) rest
    else
      match sortRun run.reverse with
      | .ok (sorted, changed) =>
        let (tail, count) := sortRuns [] rest
        (sorted ++ s :: tail, count.map (· + if changed then 1 else 0))
      | .error f => (run.reverse ++ s :: rest, .error f)

/-- Orders the top-level imports of a module; reports how many runs changed. -/
def sortImports : Edit Nat := fun m =>
  let (body, count) := sortRuns [] m.body
  (count, ⟨body⟩)

end Refactory
