/-
RecordSieve.Failure — why a definition or a value is refused.

Errors are causes; `message` gives each its wording.  Besides being
refused, a reading can be aborted: see `Abort`.
-/
import RecordSieve.FieldType

namespace RecordSieve

/-- Why a value is not of a type. -/
inductive CoercionError where
  /-- The text is not one of the type's forms. -/
  | invalid (kind : FieldType) (text : String)
  /-- The type does not take JSON values of this shape. -/
  | unsupportedShape (kind : FieldType) (shape : String)
  /-- A duration with years or months. -/
  | unsupportedDesignator (text : String)
  /-- A number, or an amount of time, beyond the type's range. -/
  | outOfRange (text : String)
  deriving DecidableEq, Repr

/-- The wording of the error. -/
def CoercionError.message : CoercionError → String
  | invalid kind text => let name := kind.name; s!"'{text}' 不是有效的 {name} 值"
  | unsupportedShape kind shape => let name := kind.name; s!"{name} 类型不接受 JSON {shape}"
  | unsupportedDesignator text => s!"时长 '{text}' 含有不支持的年/月分量"
  | outOfRange text => s!"数值 {text} 超出范围"

/-- Why a rule definition is refused. -/
inductive RuleError where
  /-- A required key is absent. -/
  | missingField (key : String)
  /-- `condition` is neither AND nor OR. -/
  | unknownConnective (text : String)
  /-- `type` names no field type. -/
  | unknownFieldType (text : String)
  /-- `operator` names no operator. -/
  | unknownOperator (text : String)
  /-- The value of a key does not have the expected shape. -/
  | invalidShape (key expected : String)
  /-- The operand of a field rule is not of the rule's type. -/
  | valueCoercion (field value : String) (cause : CoercionError)
  /-- The definition is not JSON text. -/
  | notJson
  deriving DecidableEq, Repr

/-- The wording of the error. -/
def RuleError.message : RuleError → String
  | missingField key => s!"缺少必填键: '{key}'"
  | unknownConnective text => s!"未知的条件类型: {text}"
  | unknownFieldType text => s!"未知的字段类型: {text}"
  | unknownOperator text => s!"未知的操作符: {text}"
  | invalidShape key expected => s!"键 '{key}' 格式错误: 期望 {expected}"
  | valueCoercion field value cause =>
    let reason := cause.message
    s!"字段 '{field}' 的比较值 {value} 无法转换: {reason}"
  | notJson => "JSON 序列化错误"

/-- A reading that breaks off without an answer. -/
inductive Abort where
  /-- A time offset without a colon is cut two bytes before its end, and
  that falls inside a digit of a script whose digits take more bytes. -/
  | offsetCut
  deriving DecidableEq, Repr

/-- Why an operation gives no value: it refused its input, or it broke off. -/
inductive Failure (ε : Type) where
  | refused (cause : ε)
  | aborted (abort : Abort)
  deriving DecidableEq, Repr

/-- The outcome of an operation that may refuse its input or break off. -/
abbrev Attempt (ε α : Type) := Except (Failure ε) α

namespace Attempt

variable {ε ε' α : Type}

/-- Refuses the input. -/
def refuse (cause : ε) : Attempt ε α := .error (.refused cause)

/-- A computation that can break off, as one that can also refuse. -/
def ofOutcome : Except Abort α → Attempt ε α
  | .ok a => .ok a
  | .error abort => .error (.aborted abort)

/-- Refuses with `cause` where there is no value. -/
def ofOption (cause : ε) : Option α → Attempt ε α
  | some a => .ok a
  | none => refuse cause

/-- Replaces the cause of a refusal. -/
def mapCause (f : ε → ε') : Attempt ε α → Attempt ε' α
  | .ok a => .ok a
  | .error (.refused cause) => .error (.refused (f cause))
  | .error (.aborted abort) => .error (.aborted abort)

/-- Takes a refusal as an absent value. -/
def orAbsent : Attempt ε (Option α) → Except Abort (Option α)
  | .ok a => .ok a
  | .error (.refused _) => .ok none
  | .error (.aborted abort) => .error abort

end Attempt

end RecordSieve
