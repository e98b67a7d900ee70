import Refactory.Text.Quoted
import Refactory.Tree.Stmt

/-! # Faults

Every way in which an operation can fail, as a cause. `Fault.message` gives the wording and
`Fault.category` the class of fault that reports and journals name. -/

namespace Refactory

/-- A path to a statement: the index in the module, then indices into the blocks owned by each
statement passed, counted through all of them. -/
abbrev Path := List Int

/-- A path as messages show it: in parentheses, a single step followed by a comma. -/
def Path.render : Path → Text
  | [step] => "(" ++ Text.ofInt step ++ ",)"
  | steps => "(" ++ Text.join ", " (steps.map Text.ofInt) ++ ")"

/-- Why bytes are no text in an encoding. -/
inductive DecodeReason
  | invalidStart | invalidContinuation | unexpectedEnd | outOfRange (limit : Nat)
deriving DecidableEq

/-- The wording of a decoding fault. -/
def DecodeReason.message : DecodeReason → Text
  | invalidStart => "invalid start byte"
  | invalidContinuation => "invalid continuation byte"
  | unexpectedEnd => "unexpected end of data"
  | outOfRange limit => "ordinal not in range(" ++ Text.ofNat limit ++ ")"

/-- Failures of the file layer. -/
inductive FileFault
  | missing (path : Text)
  | isDirectory (path : Text)
  | notDirectory (path : Text)
  | alreadyThere (path : Text)
  | unknownEncoding (name : Text)
  /-- An encoding that is not one of text. -/
  | notOfText (name : Text)
  | undecodable (codec : Text) (byte : Nat) (start stop : Nat) (reason : DecodeReason)
  | unencodable (codec : Text) (first : CodePoint) (start stop : Nat) (reason : Text)
  /-- Bytes or a text that a codec refuses as a whole, without pointing at a part of them. -/
  | refused (message : Text)

namespace FileFault

/-- The wording of a file fault. -/
def message : FileFault → Text
  | missing path => "[Errno 2] No such file or directory: " ++ path.quoted
  | isDirectory path => "[Errno 21] Is a directory: " ++ path.quoted
  | notDirectory path => "[Errno 20] Not a directory: " ++ path.quoted
  | alreadyThere path => "[Errno 17] File exists: " ++ path.quoted
  | unknownEncoding name => "unknown encoding: " ++ name
  | notOfText name =>
    name.quoted ++ " is not a text encoding; use codecs.open() to handle arbitrary codecs"
  | undecodable codec byte start stop reason =>
    if stop = start + 1 then
      "'" ++ codec ++ "' codec can't decode byte 0x" ++ Text.hex 2 byte ++ " in position " ++
        Text.ofNat start ++ ": " ++ reason.message
    else
      "'" ++ codec ++ "' codec can't decode bytes in position " ++ Text.ofNat start ++ "-" ++
        Text.ofNat (stop - 1) ++ ": " ++ reason.message
  | unencodable codec first start stop reason =>
    if stop = start + 1 then
      "'" ++ codec ++ "' codec can't encode character '" ++ first.numericEscape ++
        "' in position " ++ Text.ofNat start ++ ": " ++ reason
    else
      "'" ++ codec ++ "' codec can't encode characters in position " ++ Text.ofNat start ++ "-" ++
        Text.ofNat (stop - 1) ++ ": " ++ reason
  | refused message => message

/-- The class of a file fault. -/
def category : FileFault → Text
  | missing _ => "FileNotFoundError"
  | isDirectory _ => "IsADirectoryError"
  | notDirectory _ => "NotADirectoryError"
  | alreadyThere _ => "FileExistsError"
  | unknownEncoding _ | notOfText _ => "LookupError"
  | undecodable .. => "UnicodeDecodeError"
  | unencodable .. => "UnicodeEncodeError"
  | refused _ => "UnicodeError"

/-- Whether the fault lies with the file or what it holds, and not with the request or the text to be
written. -/
def isOfFile : FileFault → Bool
  | missing _ | isDirectory _ | notDirectory _ | alreadyThere _ | undecodable .. => true
  | unknownEncoding _ | notOfText _ | unencodable .. | refused _ => false

/-- Whether decoding can end in the fault. -/
def isOfDecoding : FileFault → Bool
  | undecodable .. | refused _ => true
  | _ => false

/-- Whether encoding can end in the fault. -/
def isOfEncoding : FileFault → Bool
  | unencodable .. | refused _ => true
  | _ => false

end FileFault

/-- The kinds of definitions that can be renamed. -/
inductive Definition
  | function | classDef | variable
deriving DecidableEq

/-- A kind of definition in the middle of a sentence. -/
def Definition.noun : Definition → Text
  | function => "function"
  | classDef => "class"
  | .variable => "variable"

/-- A kind of definition at the beginning of a sentence. -/
def Definition.label : Definition → Text
  | function => "Function"
  | classDef => "Class"
  | .variable => "Variable"

/-- Where reading a source failed and why; what is not known is left out. -/
def describeFailure (message : Text) (line column : Option Int) (path : Option Text) : Text :=
  let file := match path.getD [] with
    | [] => "<string>"
    | path => path
  let place := match line, column with
    | none, _ => []
    | some line, none => ":" ++ Text.ofInt line
    | some line, some column => ":" ++ Text.ofInt line ++ ":" ++ Text.ofInt column
  file ++ place ++ ": " ++ message

/-- The cause of a failed operation. -/
inductive Fault
  /-- The source could not be read as a program. -/
  | unparsed (path : Option Text)
  /-- The file with the source could not be read. -/
  | unreadable (path : Text) (why : FileFault)
  | emptyModule
  /-- A walk met an object that is no node. -/
  | notVariant (kind : Text)
  /-- Strict rendering met a construct that it cannot render. -/
  | unsupported (kind : Text)
  /-- Two lists that are walked in step differ in length. -/
  | unequalLengths (secondLonger : Bool)
  /-- An integer is too long to be written in decimal. -/
  | tooManyDigits
  | emptyPath
  | stalePath (path : Path) (depth : Nat)
  | noChild (variant : Text) (index : Int)
  | notIdentifier (name : Text)
  | notFound (what : Definition) (name : Text)
  /-- A reference whose path leads nowhere. -/
  | staleRef (path : Path) (why : Fault)
  /-- A reference whose path leads to something else. -/
  | otherNode (path : Path) (expected found : Text)
  | noStatements
  | nothingToUndo
  | noOutputPath
  /-- A text that names no member of a family of choices. -/
  | unknownChoice (value : Text) (family : Text)
  | aliasForSeveral
  /-- A position past the end of a sequence. -/
  | outOfRange
  /-- A statement to be edited is no longer in the tree. -/
  | detached
  | nullByte
  /-- Digits that write no decimal number. -/
  | notDecimal (digits : Text)
  /-- Digits that write a number too long to be read. -/
  | longNumeral (count : Nat)
  /-- An edit of the caller's that gave up. -/
  | raised (message : Text)
  | notIterable (variant : Text)
  /-- A statement that imports nothing was asked for what it imports. -/
  | noNames (variant : Text)
  /-- A field of a formatted string cannot be written without a backslash. -/
  | backslashInField
  /-- The data of a run uses a name that the journal itself passes on. -/
  | reservedField (name : Text)
  | file (why : FileFault)

namespace Fault

/-- The wording of a fault. -/
def message : Fault → Text
  | unparsed path => describeFailure "<parse failure>" none none path
  | unreadable path why =>
    describeFailure ("cannot read file: " ++ why.message) none none (some path)
  | emptyModule => "Empty module"
  | notVariant kind => "Not a node model variant: " ++ kind
  | unsupported kind => "Unsupported construct: " ++ kind
  | unequalLengths longer =>
    "zip() argument 2 is " ++ (if longer then "longer" else "shorter") ++ " than argument 1"
  | tooManyDigits =>
    "Exceeds the limit (4300 digits) for integer string conversion; " ++
      "use sys.set_int_max_str_digits() to increase the limit"
  | emptyPath => "Empty node path"
  | stalePath path depth =>
    "Node path " ++ path.render ++ " is stale at depth " ++ Text.ofNat depth
  | noChild variant index => variant ++ " has no child statement " ++ Text.ofInt index
  | notIdentifier name => "'" ++ name ++ "' is not a valid identifier"
  | notFound what name => what.label ++ " '" ++ name ++ "' not found"
  | staleRef path why => "Stale node reference " ++ path.render ++ ": " ++ why.message
  | otherNode path expected found =>
    "Stale node reference " ++ path.render ++ ": expected " ++ expected ++ ", found " ++ found
  | noStatements => "No statements given"
  | nothingToUndo => "No changes to undo"
  | noOutputPath => "No output path given"
  | unknownChoice value family => value.quoted ++ " is not a valid " ++ family
  | aliasForSeveral => "alias needs exactly one imported name"
  | outOfRange => "list index out of range"
  | detached => "cannot unpack non-iterable NoneType object"
  | nullByte => "source code string cannot contain null bytes"
  | notDecimal digits => "invalid literal for int() with base 10: " ++ digits.quoted.take 200
  | longNumeral count =>
    "Exceeds the limit (4300 digits) for integer string conversion: value has " ++
      Text.ofNat count ++ " digits; use sys.set_int_max_str_digits() to increase the limit"
  | raised message => message
  | notIterable variant => "'" ++ variant ++ "' object is not iterable"
  | noNames variant => "'" ++ variant ++ "' object has no attribute 'names'"
  | backslashInField => "Unable to avoid backslash in f-string expression part"
  | reservedField name => "RewriteLogger.run() got multiple values for argument '" ++ name ++ "'"
  | file why => why.message

/-- The class of a fault. -/
def category : Fault → Text
  | unparsed _ | unreadable .. => "ParseFailure"
  | emptyModule | notVariant _ | unsupported _ => "StructureError"
  | notIdentifier _ | notFound .. | staleRef .. | otherNode .. | noStatements | nothingToUndo
  | noOutputPath => "OperationError"
  | emptyPath | stalePath .. | noChild .. => "LookupError"
  | unequalLengths _ | tooManyDigits | unknownChoice .. | aliasForSeveral | nullByte
  | notDecimal _ | longNumeral _ | raised _ | backslashInField => "ValueError"
  | outOfRange => "IndexError"
  | detached | notIterable _ | reservedField _ => "TypeError"
  | noNames _ => "AttributeError"
  | file why => why.category

/-- The construct that a structural fault is about. -/
def kind? : Fault → Option Text
  | notVariant kind | unsupported kind => some kind
  | _ => none

/-- Whether a path or a position leads nowhere. -/
def isLookup : Fault → Bool
  | emptyPath | stalePath .. | noChild .. | outOfRange => true
  | _ => false

/-- Whether an operation was refused because what it asks for cannot be done. -/
def isRefusal : Fault → Bool
  | notIdentifier _ | notFound .. | staleRef .. | otherNode .. | noStatements | nothingToUndo
  | noOutputPath => true
  | _ => false

/-- Whether a source could not be read as a program. -/
def isParseFailure : Fault → Bool
  | unparsed _ | unreadable .. => true
  | _ => false

/-- Whether a tree is malformed or holds what cannot be rendered. -/
def isStructural : Fault → Bool
  | emptyModule | notVariant _ | unsupported _ => true
  | _ => false

/-- Whether a source could not be read, a tree is malformed or an operation was refused, as opposed to
a fault of what the library is built on. -/
def isOwn (f : Fault) : Bool := f.isParseFailure || f.isStructural || f.isRefusal

end Fault

end Refactory
