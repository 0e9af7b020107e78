import Mathlib.Data.List.Infix

/-!
# Executions of field mappings

`executeMapping` returns early when the input is not valid, and `applyTransformation` turns what a
transformation throws into a warning unless its rule asks for an error.
-/

namespace FieldMappings

inductive Severity where
  | low
  | medium
  | high

structure MappingError where
  field : String
  error : String
  severity : Severity
  code : String

inductive Status where
  | success
  | warning
  | error
  deriving DecidableEq

inductive ErrorHandling where
  | ignore
  | default
  | error
  deriving DecidableEq

inductive TransformationType where
  | direct
  | custom
  | lookup
  | conditional
  | aggregation

structure ConditionalMapping (V : Type) where
  condition : String
  value : V

structure TransformationRule (V : Type) where
  type : TransformationType
  function : Option String
  parameters : Option V
  lookupTable : Option V
  conditions : Option (List (ConditionalMapping V))
  defaultValue : V
  errorHandling : ErrorHandling

structure ValidationRule (V : Type) where
  type : String
  parameters : Option V
  errorMessage : String
  isActive : Bool

structure FieldMapping (V : Type) where
  sourceField : String
  targetField : String
  transformationRule : Option (TransformationRule V)
  isActive : Bool
  validationRules : List (ValidationRule V)

structure MappingExecution (V : Type) where
  id : String
  mappingId : String
  sourceData : V
  transformedData : V
  executionTime : Nat
  status : Status
  errors : List MappingError
  warnings : List String
  timestamp : Nat

/-- The text of what was thrown, and its `message` if it is an `Error`. -/
structure Thrown where
  text : String
  message : Option String

/-- `_metadata` -/
structure Metadata where
  mappingId : String
  transformedAt : Nat
  sourceField : String

/-- JavaScript values: reading and building them along a path, and the code in the rules. -/
structure Host (V : Type) where
  null : V
  emptyObject : V
  truthy : V → Bool
  extractFieldValue : V → String → V
  createTargetData : String → V → Option Metadata → V
  property : V → V → Except Thrown V
  call : String → V → V → Except Thrown V
  holds : String → V → Except Thrown Bool
  validateValue : V → ValidationRule V → Except Thrown Bool

/-- The arguments of a call and what the clock and the random numbers give it. -/
structure Call (V : Type) where
  mappingId : String
  sourceData : V
  validateInput : Bool
  includeMetadata : Bool
  id : String
  startTime : Nat
  endTime : Nat

structure Service (V : Type) where
  mappings : String → Option (FieldMapping V)
  executions : List (MappingExecution V)
  /-- The executions announced by `mappingExecuted`. -/
  announced : List (MappingExecution V)

variable {V : Type}

def validateInputData (host : Host V) (mapping : FieldMapping V) (data : V) : List MappingError :=
  let value := host.extractFieldValue data mapping.sourceField
  (mapping.validationRules.filter (·.isActive)).filterMap fun rule =>
    match host.validateValue value rule with
    | .ok true => none
    | .ok false => some ⟨mapping.sourceField, rule.errorMessage, .medium,
        "VALIDATION_" ++ rule.type.toUpper⟩
    | .error thrown => some ⟨mapping.sourceField, "Validation error: " ++ thrown.text, .high,
        "VALIDATION_ERROR"⟩

def firstHolding (host : Host V) (value defaultValue : V) :
    List (ConditionalMapping V) → Except Thrown V
  | [] => .ok defaultValue
  | mapping :: rest => do
    if ← host.holds mapping.condition value then return mapping.value
    firstHolding host value defaultValue rest

/-- The `try` block of `applyTransformation`, with its warnings. -/
def transform (host : Host V) (rule : TransformationRule V) (value : V) :
    Except Thrown (V × List String) :=
  match rule.type with
  | .direct => .ok (value, [])
  | .custom =>
    match rule.function.filter (· ≠ "") with
    | none => .ok (rule.defaultValue, [])
    | some function =>
      (host.call function value (rule.parameters.getD host.emptyObject)).map (·, [])
  | .lookup =>
    match rule.lookupTable with
    | none => .ok (rule.defaultValue, [])
    | some table => (host.property table value).map fun found =>
        (if host.truthy found then found else rule.defaultValue, [])
  | .conditional =>
    match rule.conditions with
    | none => .ok (rule.defaultValue, [])
    | some conditions => (firstHolding host value rule.defaultValue conditions).map (·, [])
  | .aggregation => .ok (value, ["Unknown transformation type: aggregation"])

def applyTransformation (host : Host V) (rule : TransformationRule V) (value : V) :
    Except Thrown (V × List String) :=
  match transform host rule value with
  | .ok result => .ok result
  | .error thrown =>
    match rule.errorHandling with
    | .error => .error thrown
    | .default => .ok (rule.defaultValue,
        ["Transformation failed, using default value: " ++ thrown.text])
    | .ignore => .ok (value, ["Transformation failed, ignoring: " ++ thrown.text])

/-- The rest of the `try` block of `executeMapping`, and its `catch`. -/
def transformed (host : Host V) (mapping : FieldMapping V) (call : Call V)
    (execution : MappingExecution V) : MappingExecution V :=
  let sourceValue := host.extractFieldValue call.sourceData mapping.sourceField
  let transformedValue : Except Thrown (V × List String) := match mapping.transformationRule with
    | none => .ok (sourceValue, [])
    | some rule => applyTransformation host rule sourceValue
  match transformedValue with
  | .ok (value, warnings) => { execution with
      transformedData := host.createTargetData mapping.targetField value
        (if call.includeMetadata then
          some ⟨call.mappingId, call.endTime, mapping.sourceField⟩ else none)
      warnings := execution.warnings ++ warnings
      status := if 0 < execution.errors.length then .warning else .success }
  | .error thrown => { execution with
      status := .error
      errors := execution.errors ++ [⟨mapping.sourceField,
        thrown.message.getD "Unknown transformation error", .high, "TRANSFORMATION_ERROR"⟩] }

def limitHistory (executions : List (MappingExecution V)) : List (MappingExecution V) :=
  if 1000 < executions.length then executions.drop (executions.length - 500) else executions

def inputErrors (host : Host V) (mapping : FieldMapping V) (call : Call V) : List MappingError :=
  if call.validateInput then validateInputData host mapping call.sourceData else []

def newExecution (host : Host V) (call : Call V) : MappingExecution V :=
  ⟨call.id, call.mappingId, call.sourceData, host.null, 0, .success, [], [], call.startTime⟩

def finished (host : Host V) (mapping : FieldMapping V) (call : Call V) : MappingExecution V :=
  { transformed host mapping call (newExecution host call) with
    executionTime := call.endTime - call.startTime }

def executeMapping (host : Host V) (s : Service V) (call : Call V) :
    Service V × Except String (MappingExecution V) :=
  match s.mappings call.mappingId with
  | none => (s, .error ("Mapping not found: " ++ call.mappingId))
  | some mapping =>
    if mapping.isActive then
      let validationErrors := inputErrors host mapping call
      if 0 < validationErrors.length then
        (s, .ok { newExecution host call with errors := validationErrors, status := .error })
      else
        let execution := finished host mapping call
        ({ s with
          executions := limitHistory (s.executions ++ [execution])
          announced := s.announced ++ [execution] }, .ok execution)
    else (s, .error ("Mapping is inactive: " ++ call.mappingId))

def Throws (host : Host V) (mapping : FieldMapping V) (call : Call V)
    (rule : TransformationRule V) : Prop :=
  mapping.transformationRule = some rule ∧
    ∃ thrown, transform host rule (host.extractFieldValue call.sourceData mapping.sourceField) =
      .error thrown

/-- A returned execution is the last in the history and announced once, and its status tells of
the failures. -/
def Accounted (host : Host V) (s : Service V) (call : Call V) : Prop :=
  ∀ mapping execution, s.mappings call.mappingId = some mapping →
    (executeMapping host s call).2 = .ok execution →
    (∃ kept, kept <:+ s.executions ∧
      (executeMapping host s call).1.executions = kept ++ [execution]) ∧
    (executeMapping host s call).1.announced = s.announced ++ [execution] ∧
    (inputErrors host mapping call ≠ [] → execution.status = .error) ∧
    ∀ rule, Throws host mapping call rule →
      (rule.errorHandling = .error → execution.status = .error) ∧ execution.status ≠ .success

/-- The input is valid, and a rule that throws asks for an error. -/
def Unhandled (host : Host V) (s : Service V) (call : Call V) : Prop :=
  ∀ mapping, s.mappings call.mappingId = some mapping → mapping.isActive →
    inputErrors host mapping call = [] ∧
      ∀ rule, Throws host mapping call rule → rule.errorHandling = .error

variable {host : Host V} {s : Service V} {c : Call V} {m : FieldMapping V}
  {e : MappingExecution V} {r : TransformationRule V}

lemma limitHistory_concat (es : List (MappingExecution V)) :
    ∃ k, k <:+ es ∧ limitHistory (es ++ [e]) = k ++ [e] := by
  rw [limitHistory]
  split
  next h =>
    rw [List.length_append, List.length_singleton] at h ⊢
    exact ⟨_, List.drop_suffix _ _, List.drop_append_of_le_length (by omega)⟩
  next => exact ⟨es, List.suffix_rfl, rfl⟩

lemma status_of_throws (ht : Throws host m c r) : (finished host m c).status =
    if r.errorHandling = .error then .error else .success := by
  obtain ⟨hr, t, ht⟩ := ht
  rw [finished, transformed, hr]
  cases hh : r.errorHandling <;> simp [applyTransformation, ht, hh, newExecution]

section

variable (hm : s.mappings c.mappingId = some m) (ha : m.isActive)
include hm ha

lemma executeMapping_valid (hv : inputErrors host m c = []) : executeMapping host s c = ({ s with
      executions := limitHistory (s.executions ++ [finished host m c])
      announced := s.announced ++ [finished host m c] }, .ok (finished host m c)) := by
  simp [executeMapping, hm, ha, hv]

lemma executeMapping_invalid (hv : inputErrors host m c ≠ []) :
    ∃ e, executeMapping host s c = (s, .ok e) := by
  simp [executeMapping, hm, ha, List.length_pos_iff.mpr hv]

end

/-- Values are numbers, all code throws, and no value is valid. -/
def failing : Host Nat :=
  ⟨0, 0, (· ≠ 0), fun value _ => value, fun _ value _ => value, fun _ _ => .error ⟨"Error", none⟩,
    fun _ _ _ => .error ⟨"Error", none⟩, fun _ _ => .error ⟨"Error", none⟩, fun _ _ => .ok false⟩

def ignoring : TransformationRule Nat := ⟨.custom, some "f(value)", none, none, none, 0, .ignore⟩

def service : Service Nat :=
  ⟨fun _ => some ⟨"a", "b", ignoring, true, [⟨"required", none, "missing", true⟩]⟩, [], []⟩

def call (validateInput : Bool) : Call Nat := ⟨"m1", 7, validateInput, false, "exec_1", 0, 0⟩

end FieldMappings
