/-!
Why an operation on a story stops. Each cause has one wording.
-/

namespace StoryState

/-- Why a file or a directory cannot be used. -/
inductive FileFault where
  | exists
  | notFound
  | notDirectory
  | isDirectory
  | nameTooLong
  /-- A name with a character that no name can have. -/
  | badName
deriving Repr, DecidableEq

/-- The cause of a failed operation. -/
inductive Fault where
  /-- A numeral with more digits than are read. -/
  | numeralTooLong (digits : Nat)
  /-- A whole number with more digits than are written. -/
  | numberTooLong
  /-- A whole number beyond the doubles. -/
  | numberTooLarge
  /-- A text that is no JSON document, with the cause and its place. -/
  | notJson (wording : String)
  /-- A value without the member that a record needs. -/
  | noMember (typeName member : String)
  /-- A value that has no items. -/
  | notIterable (typeName : String)
  /-- A value that makes no key. -/
  | notKey (typeName : String)
  /-- A value that has no parts to be asked for. -/
  | noParts (typeName : String)
  /-- A text or a list asked for the part of a name. -/
  | namedPart (isText : Bool)
  /-- A pair that has no parts at all. -/
  | notPair (index : Nat)
  /-- A pair that does not have two parts. -/
  | badPair (index length : Nat)
  /-- A name among others that is no text. -/
  | nameNotText (index : Nat) (typeName : String)
  /-- A record without a field that it needs. -/
  | missingField (name : String)
  /-- A configuration that is no object. -/
  | configNotObject
  /-- Bytes that are no text. -/
  | notText
  /-- A character whose state has not been opened. -/
  | scopeNotOpen (id : String)
  /-- A table that is not registered. -/
  | noTable (name : String)
  /-- A row without a cell that its table needs. -/
  | missingCell (table column : String)
  /-- A store that cannot be read or written. -/
  | storage (key : String)
  /-- A store whose files cannot be read or written. -/
  | disk
  /-- A file or a directory that cannot be used. -/
  | file (cause : FileFault)
  /-- Configurations that cannot be read at all. -/
  | unreadable (wording : String)
  /-- A history that cannot be asked. -/
  | noHistory
  /-- A server that does not start. -/
  | notStarted (complaints : List String)
deriving Repr, DecidableEq

/-- The families of faults, as far as an operation that goes on after a fault tells them apart. -/
inductive FaultFamily where
  /-- A value that is not as it should be. -/
  | value
  /-- A key that is missing. -/
  | key
  /-- A value of a kind that cannot be used so. -/
  | kind
  /-- A member that a value does not have. -/
  | member
  | other
deriving Repr, DecidableEq

namespace Fault

/-- The family of a fault. -/
def family : Fault → FaultFamily
  | .numeralTooLong _ | .numberTooLong | .badPair .. | .notJson _ | .configNotObject | .notText
  | .file .badName => .value
  | .missingField _ => .key
  | .notIterable _ | .notKey _ | .noParts _ | .namedPart _ | .notPair _ | .nameNotText .. => .kind
  | .noMember .. => .member
  | .numberTooLarge | .scopeNotOpen _ | .noTable _ | .missingCell .. | .storage _ | .disk | .file _
  | .unreadable _ | .noHistory | .notStarted _ => .other

/-- The wording of a fault with files. -/
def fileMessage : FileFault → String
  | .exists => "File exists"
  | .notFound => "No such file or directory"
  | .notDirectory => "Not a directory"
  | .isDirectory => "Is a directory"
  | .nameTooLong => "File name too long"
  | .badName => "embedded null byte"

/-- The wording of a fault. -/
def message : Fault → String
  | .numeralTooLong digits =>
    "Exceeds the limit (4300 digits) for integer string conversion: value has " ++
      toString digits ++ " digits; use sys.set_int_max_str_digits() to increase the limit"
  | .numberTooLong =>
    "Exceeds the limit (4300 digits) for integer string conversion; " ++
      "use sys.set_int_max_str_digits() to increase the limit"
  | .numberTooLarge => "int too large to convert to float"
  | .notJson wording => wording
  | .noMember typeName member =>
    "'" ++ typeName ++ "' object has no attribute '" ++ member ++ "'"
  | .notIterable typeName => "'" ++ typeName ++ "' object is not iterable"
  | .notKey typeName => "unhashable type: '" ++ typeName ++ "'"
  | .noParts typeName => "'" ++ typeName ++ "' object is not subscriptable"
  | .namedPart true => "string indices must be integers, not 'str'"
  | .namedPart false => "list indices must be integers or slices, not str"
  | .notPair index =>
    "cannot convert dictionary update sequence element #" ++ toString index ++ " to a sequence"
  | .nameNotText index typeName =>
    "sequence item " ++ toString index ++ ": expected str instance, " ++ typeName ++ " found"
  | .badPair index length =>
    "dictionary update sequence element #" ++ toString index ++ " has length " ++ toString length ++
      "; 2 is required"
  | .missingField name => "'" ++ name ++ "'"
  | .configNotObject => "变量配置必须是对象"
  | .notText => "invalid start byte"
  | .scopeNotOpen id => "角色 " ++ id ++ " 的变量系统尚未初始化"
  | .noTable name => "表格 " ++ name ++ " 不存在"
  | .missingCell table column => "表格 " ++ table ++ " 缺少必填列 '" ++ column ++ "'"
  | .storage key => "disk full: " ++ key
  | .disk => "disk full"
  | .file cause => fileMessage cause
  | .unreadable wording => wording
  | .noHistory => "no history"
  | .notStarted complaints =>
    "Server startup failed: Configuration validation errors: " ++ "; ".intercalate complaints

end Fault

end StoryState
