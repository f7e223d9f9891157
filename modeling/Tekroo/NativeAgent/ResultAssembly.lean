import Mathlib.Logic.Function.Basic
import Tekroo.NativeAgent.Session

namespace Tekroo.NativeAgent

open Kernel Application

/-! # Assembling the result of a handler

The arguments of `submit_result` are completed from the accepted plan and from the signed schema
of the handler.  Texts are taken as the values that `encoding/json` reads from them.
-/

/-- An object is a map: its members have no order, and no two of them have one name. -/
inductive Json where
  | null
  | bool (value : Bool)
  | number (spelling : String)
  | string (value : String)
  | array (items : List Json)
  | object (members : String → Option Json)

abbrev Members := String → Option Json

namespace Json

def isObject : Json → Bool
  | object _ => true
  | _ => false

/-- The value at a path of member names. -/
def along : Json → List String → Option Json
  | value, [] => some value
  | object members, name :: rest => (members name).bind (·.along rest)
  | _, _ :: _ => none

/-- An object without the member gets it. -/
def supply (arguments : Json) (name : String) (value : Json) : Json :=
  match arguments with
  | object members => object (Function.update members name (some ((members name).getD value)))
  | _ => arguments

def index? : Json → Option UInt32
  | null => some 0
  | number spelling => (spelling.toNat?.filter fun value =>
      value < UInt32.size && value.repr == spelling).map UInt32.ofNat
  | _ => none

/-- A `[]uint32`, which is `nil` for `null`. -/
def slice? : Json → Option (Option (List UInt32))
  | null => some none
  | array items => some <$> items.mapM index?
  | _ => none

def slice : Option (List UInt32) → Json
  | none => null
  | some values => array (values.map (number ·.toNat.repr))

end Json

structure TaskDependency where
  taskIndex : UInt32
  /-- `nil` when it is missing -/
  dependsOn : Option (List UInt32)

structure PlanDelta where
  taskDependencies : Option (List TaskDependency)
  handoffs : Option Json

structure PlanDecoder where
  /-- The work product of the envelope in a text -/
  workProduct : List Char → Option Json
  /-- The strict decoding of the submitted work product -/
  delta : Json → Option PlanDelta
  digest : Digest → String

section Plan

variable (decoder : PlanDecoder) (plan : PlanFinalizationBinding)

/-- Every refusal is `ErrInvalidBinding`, here and below. -/
def acceptedPlanWorkProduct : Option (Members × List Json) :=
  let marker := organizationalResultMarker.toList
  let output := plan.sourceOutput.toList
  match (List.range output.length).filter fun index => marker.isPrefixOf (output.drop index) with
  | [index] =>
    if index ≠ 0 ∧ output[index - 1]? ≠ some '\n' then none
    else match decoder.workProduct (output.drop (index + marker.length)) with
      | some (.object source) => match source "result_type", source "tasks" with
        | some (.string "FEATURE_PLAN"), some (.array tasks) =>
          if tasks ≠ [] ∧ tasks.all (· matches .object _ | .null) then some (source, tasks)
          else none
        | _, _ => none
      | _ => none
  | _ => none

def appendDependencies (count : Nat) (task : UInt32) :
    Option (List UInt32) → List UInt32 → Option (Option (List UInt32))
  | existing, [] => some existing
  | existing, dependency :: rest =>
    if count ≤ dependency.toNat ∨ dependency = task ∨ dependency ∈ existing.getD [] then none
    else appendDependencies count task (some (existing.getD [] ++ [dependency])) rest

def bindChanges (seen : List UInt32) (tasks : List Json) :
    List TaskDependency → Option (List Json)
  | [] => some tasks
  | change :: rest => if change.taskIndex ∈ seen then none else do
    let dependsOn ← change.dependsOn
    let .object task ← tasks[change.taskIndex.toNat]? | none
    let existing ← task "depends_on" >>= Json.slice?
    let extended ← appendDependencies tasks.length change.taskIndex existing dependsOn
    bindChanges (change.taskIndex :: seen) (tasks.set change.taskIndex.toNat
      (.object (Function.update task "depends_on" (some (.slice extended))))) rest

def bindHandlerPlanResult : Json → Option Json
  | .object envelope => match envelope "outcome" with
    | some (.string "completed") => do
      let (source, tasks) ← acceptedPlanWorkProduct decoder plan
      let delta ← envelope "work_product" >>= decoder.delta
      let tasks ← delta.taskDependencies >>= bindChanges [] tasks
      let .array handoffs ← delta.handoffs | none
      let update (name : String) (value : Json) (members : Members) :=
        Function.update members name (some value)
      return .object <| update "work_product" (.object <| update "tasks" (.array tasks) <|
        update "handoffs" (.array handoffs) <|
        update "source_design_digest" (.string (decoder.digest plan.sourceDigest)) <|
        update "result_type" (.string "FEATURE_EXECUTION_PLAN") <|
        update "schema_version" (.string "1.0.0") source) envelope
    | some (.string _) | some .null => some (.object envelope)
    | _ => none
  | _ => none

/-- How a task may change: new dependencies are appended. -/
def Redirected (count index : Nat) (before after : Json) : Prop :=
  ∃ task existing extended new, before = .object task ∧
    (task "depends_on" >>= Json.slice?) = some existing ∧
    after = .object (Function.update task "depends_on" (some (.slice extended))) ∧
    extended.getD [] = existing.getD [] ++ new ∧ new.Nodup ∧ ∀ dependency ∈ new,
      dependency ∉ existing.getD [] ∧ dependency.toNat < count ∧ dependency.toNat ≠ index

variable {decoder plan} {count : Nat} {task : UInt32} {existing extended : Option (List UInt32)}
  {tasks after : List Json}

theorem appendDependencies_some {new : List UInt32}
    (appended : appendDependencies count task existing new = some extended) :
    extended.getD [] = existing.getD [] ++ new ∧ new.Nodup ∧ ∀ dependency ∈ new,
      dependency ∉ existing.getD [] ∧ dependency.toNat < count ∧
        dependency.toNat ≠ task.toNat := by
  induction new generalizing existing with
  | nil =>
    cases appended
    simp
  | cons first rest induction =>
    rw [appendDependencies] at appended
    split at appended
    · cases appended
    · have others := induction appended
      grind [UInt32.toNat_inj]

theorem bindChanges_some {changes : List TaskDependency} {seen : List UInt32}
    (bound : bindChanges seen tasks changes = some after) :
    after.length = tasks.length ∧ ∀ index before, tasks[index]? = some before →
      ∃ later, after[index]? = some later ∧ (later = before ∨
        index ∉ seen.map UInt32.toNat ∧ Redirected tasks.length index before later) := by
  induction changes generalizing seen tasks with
  | nil =>
    cases bound
    exact ⟨rfl, fun index before found => ⟨before, found, .inl rfl⟩⟩
  | cons change rest induction =>
    rw [bindChanges] at bound
    split at bound
    · cases bound
    rename_i fresh
    simp only [Option.bind_eq_bind, Option.bind_eq_some_iff] at bound
    obtain ⟨new, _, before, found, bound⟩ := bound
    split at bound
    · rename_i task
      simp only [Option.bind_eq_some_iff] at bound
      obtain ⟨existing, ⟨list, listed, read⟩, extended, appended, bound⟩ := bound
      obtain ⟨length, others⟩ := induction bound
      rw [List.length_set] at length others
      refine ⟨length, fun index earlier known => ?_⟩
      by_cases here : index = change.taskIndex.toNat
      · subst here
        cases known.symm.trans found
        obtain ⟨later, last, rfl | ⟨unseen, _⟩⟩ := others _ _ (List.getElem?_set_self
          (List.getElem?_eq_some_iff.mp found).1)
        · exact ⟨_, last, .inr ⟨by simpa [UInt32.toNat_inj] using fresh, task, existing, extended,
            new, rfl, Option.bind_eq_some_iff.mpr ⟨list, listed, read⟩, rfl,
            appendDependencies_some appended⟩⟩
        · simp at unseen
      · have later := others index earlier
        grind
    · cases bound

/-- The work product agrees with the source up to the five fields of a finalized plan, and its
tasks up to the dependencies that were added. -/
def KeepsDesign (source : Members) (tasks : List Json) (product : Members) : Prop :=
  (∀ name, name ∉ ["schema_version", "result_type", "source_design_digest", "handoffs",
    "tasks"] → product name = source name) ∧
  ∃ after, source "tasks" = some (.array tasks) ∧ product "tasks" = some (.array after) ∧
    after.length = tasks.length ∧ ∀ index before, tasks[index]? = some before →
      ∃ later, after[index]? = some later ∧
        (later = before ∨ Redirected tasks.length index before later)

/-- Finalizing a plan keeps the accepted design. -/
theorem plan_design_kept {envelope source : Members} {result : Json}
    (accepted : acceptedPlanWorkProduct decoder plan = some (source, tasks))
    (completed : envelope "outcome" = some (.string "completed"))
    (bound : bindHandlerPlanResult decoder plan (.object envelope) = some result) :
    ∃ product, result = .object (Function.update envelope "work_product" (some (.object product))) ∧
      KeepsDesign source tasks product := by
  simp only [bindHandlerPlanResult, completed, accepted, Option.bind_eq_bind, Option.bind_some,
    Option.bind_eq_some_iff] at bound
  obtain ⟨delta, _, after, ⟨changes, _, changed⟩, handoffs, _, bound⟩ := bound
  split at bound
  · cases bound
    obtain ⟨length, each⟩ := bindChanges_some changed
    refine ⟨_, rfl, by simp +contextual, after, ?_, Function.update_self .., length, ?_⟩
    · grind [acceptedPlanWorkProduct]
    · intro index before found
      obtain ⟨later, last, same | ⟨_, redirected⟩⟩ := each index before found
      · exact ⟨later, last, .inl same⟩
      · exact ⟨later, last, .inr redirected⟩
  · cases bound

end Plan

namespace Sample

def plannedTask : Json := .object (Function.update (fun _ => none) "depends_on" (some .null))

def plannedDesign : Members
  | "result_type" => some (.string "FEATURE_PLAN")
  | "tasks" => some (.array [plannedTask, plannedTask])
  | _ => none

def planText : String :=
  "\x7b\"outcome\":\"completed\",\"work_product\":\x7b\"result_type\":\"FEATURE_PLAN\"," ++
    "\"tasks\":[\x7b\"depends_on\":null\x7d,\x7b\"depends_on\":null\x7d]\x7d\x7d"

def readIndex : Json → Option UInt32
  | .number "0" => some 0
  | .number "1" => some 1
  | _ => none

def readDependency : Json → Option TaskDependency
  | .object members => match members "task_index", members "depends_on" with
    | some index, some (.array items) => do
      return ⟨← readIndex index, some (← items.mapM readIndex)⟩
    | _, _ => none
  | _ => none

def planDecoder : PlanDecoder where
  workProduct text := if text = planText.toList then some (.object plannedDesign) else none
  delta
    | .object members => match members "task_dependencies" with
      | some (.array items) => do return ⟨← items.mapM readDependency, members "handoffs"⟩
      | _ => none
    | _ => none
  digest
    | .number value => value.repr
    | .text value => value

def planSource : PlanFinalizationBinding :=
  ⟨"Done.\n" ++ organizationalResultMarker ++ planText, .number 1⟩

def planChange : Members
  | "task_index" => some (.number "1")
  | "depends_on" => some (.array [.number "0"])
  | _ => none

def planProduct : Members
  | "task_dependencies" => some (.array [.object planChange])
  | "handoffs" => some (.array [])
  | _ => none

def finalization : Members
  | "outcome" => some (.string "completed")
  | "work_product" => some (.object planProduct)
  | _ => none

set_option maxRecDepth 8192 in
theorem plan_finalized : ∃ product,
    bindHandlerPlanResult planDecoder planSource (.object finalization) = some (.object
      (Function.update finalization "work_product" (some (.object product)))) ∧
    KeepsDesign plannedDesign [plannedTask, plannedTask] product := by
  obtain ⟨product, result, kept⟩ := @plan_design_kept planDecoder planSource
    [plannedTask, plannedTask] finalization plannedDesign _ rfl rfl rfl
  exact ⟨product, congrArg some result, kept⟩

end Sample

/-- What is read from a schema: `Required`, `Properties`, the `Const` of each property and whether
every property can be read with a text as its constant.  What has not the form of a schema
requires nothing. -/
inductive Schema where
  | absent
  | read (required : List String) (properties : String → Schema) (consts : String → Option Json)
    (textual : Bool)

namespace Schema

def required : Schema → List String
  | absent => []
  | read required _ _ _ => required

def property : Schema → String → Schema
  | absent, _ => absent
  | read _ properties _ _, name => properties name

def const : Schema → String → Option Json
  | absent, _ => none
  | read _ _ consts _, name => consts name

def fixedHandlerResultVersion : Schema → Bool
  | absent => false
  | read required _ consts textual => textual && required.contains "schema_version" &&
    consts "schema_version" matches some (.string "1.0.0")

/-- The condition of `canonicalizeEmptyProposals` -/
def withoutProposals (schema : Schema) (allowedMessageProposals : List String) : Bool :=
  allowedMessageProposals.isEmpty && schema.required.contains "message_proposals" &&
    schema.property "message_proposals" matches read _ _ _ _

/-- The constant that the schema fixes at a path of required members. -/
def fixes (schema : Schema) : List String → Option Json
  | [] => none
  | name :: rest =>
    if name ∈ schema.required then
      if rest = [] then schema.const name else (schema.property name).fixes rest
    else none

/-- Constants that are no objects. -/
def Plain (schema : Schema) : Prop :=
  ∀ path value, schema.fixes path = some value → value.isObject = false

end Schema

def bindHandlerResultVersion (schema : Schema) (arguments : Json) : Json :=
  if schema.fixedHandlerResultVersion then arguments.supply "schema_version" (.string "1.0.0")
  else arguments

def canonicalizeEmptyProposals (allowedMessageProposals : List String) (schema : Schema)
    (arguments : Json) : Json :=
  if schema.withoutProposals allowedMessageProposals then
    arguments.supply "message_proposals" (.array [])
  else arguments

def turns (bound : String → Option Json → Option Json) (names : List String)
    (members : Members) : Members :=
  names.foldl (fun object name => Function.update object name (bound name (object name))) members

/-- A required constant is supplied when it is missing, at every level. -/
def bindHandlerFixedConstants : Schema → Json → Json
  | .read required properties consts _, .object members =>
    .object (turns (fun name present =>
      (present.map (bindHandlerFixedConstants (properties name))).or (consts name))
      required members)
  | _, arguments => arguments

def assembled (allowedMessageProposals : List String) (schema : Schema) (arguments : Json) : Json :=
  bindHandlerFixedConstants schema (canonicalizeEmptyProposals allowedMessageProposals schema
    (bindHandlerResultVersion schema arguments))

/-- How the value at a path may change when objects are completed. -/
def Follows (gained : Json → Prop) : Option Json → Option Json → Prop
  | some before, some after => after = before ∨ before.isObject = true ∧ after.isObject = true
  | some _, none => False
  | none, some value => gained value
  | none, none => True

variable {name : String} {value arguments : Json} {members : Members} {schema : Schema}
  {allowed path : List String}

theorem turns_apply {bound : String → Option Json → Option Json} {names : List String}
    (again : ∀ name ∈ names, ∀ present, bound name (bound name present) = bound name present) :
    turns bound names members name =
      if name ∈ names then bound name (members name) else members name := by
  rw [turns]
  induction names generalizing members with
  | nil => simp
  | cons first rest induction =>
    rw [List.foldl_cons, induction fun name member => again name (List.mem_cons_of_mem _ member)]
    grind [Function.update]

theorem bind_cases (schema : Schema) (arguments : Json) :
    bindHandlerFixedConstants schema arguments = arguments ∨
      ∃ members, arguments = .object members := by
  cases schema <;> cases arguments <;> first | exact .inr ⟨_, rfl⟩ | exact .inl rfl

theorem bind_plain (simple : value.isObject = false) :
    bindHandlerFixedConstants schema value = value :=
  (bind_cases schema value).resolve_right (by rintro ⟨_, rfl⟩; cases simple)

namespace Schema

def bound (schema : Schema) (name : String) (present : Option Json) : Option Json :=
  (present.map (bindHandlerFixedConstants (schema.property name))).or (schema.const name)

def Settles (schema : Schema) : Prop := ∀ name ∈ schema.required, ∀ present,
  schema.bound name (schema.bound name present) = schema.bound name present

theorem Settles.object (settles : schema.Settles) :
    bindHandlerFixedConstants schema (.object members) = .object fun name =>
      if name ∈ schema.required then schema.bound name (members name) else members name := by
  cases schema with
  | absent => simp [bindHandlerFixedConstants, required]
  | read => exact congrArg Json.object (funext fun name => turns_apply settles)

theorem Settles.again (settles : schema.Settles) :
    bindHandlerFixedConstants schema (bindHandlerFixedConstants schema arguments) =
      bindHandlerFixedConstants schema arguments := by
  rcases bind_cases schema arguments with same | ⟨members, rfl⟩
  · rw [same, same]
  · rw [settles.object, settles.object]
    grind [Settles]

theorem Plain.inner (plain : schema.Plain) (member : name ∈ schema.required) :
    (schema.property name).Plain := by
  rintro (_ | ⟨next, rest⟩) value fixed
  · cases fixed
  · exact plain (name :: next :: rest) value ((if_pos member).trans fixed)

theorem Plain.const (plain : schema.Plain) (member : name ∈ schema.required)
    (fixed : schema.const name = some value) : value.isObject = false :=
  plain [name] value ((if_pos member).trans fixed)

theorem Plain.settles (plain : schema.Plain) : schema.Settles := by
  induction schema with
  | absent => nofun
  | read required properties consts textual induction =>
    intro name member present
    rcases present with _ | value
    · rcases fixed : consts name with _ | value
      · simp [bound, Schema.const, fixed]
      · simp [bound, Schema.const, fixed, bind_plain (plain.const member fixed)]
    · exact congrArg some (induction name (plain.inner member)).again

theorem Plain.along (plain : schema.Plain) :
    Follows (fun value => schema.fixes path = some value) (arguments.along path)
      ((bindHandlerFixedConstants schema arguments).along path) := by
  induction path generalizing schema arguments with
  | nil =>
    rcases bind_cases schema arguments with same | ⟨members, rfl⟩
    · exact .inl same
    · rw [plain.settles.object]
      exact .inr ⟨rfl, rfl⟩
  | cons name rest induction =>
    rcases bind_cases schema arguments with same | ⟨members, rfl⟩
    · rw [same]
      cases arguments.along (name :: rest) <;> simp [Follows]
    rw [plain.settles.object]
    simp only [Json.along, fixes]
    split
    · rename_i member
      rcases members name with _ | value
      · rcases fixed : schema.const name with _ | value
        · simp [bound, fixed, Follows]
        · have simple := plain.const member fixed
          cases rest <;> cases value <;> simp_all [bound, Follows, Json.along]
          cases simple
      · cases rest <;> exact induction (plain.inner member)
    · cases (members name).bind (·.along rest) <;> simp [Follows]

/-! What the first two functions supply, the last one would supply for this schema. -/

/-- The schema with the empty proposal list as a constant. -/
def emptied (schema : Schema) (allowed : List String) : Schema :=
  read schema.required schema.property (fun name =>
    if name = "message_proposals" ∧ schema.withoutProposals allowed then some (.array [])
    else schema.const name) false

theorem emptied_fixes (fixed : (schema.emptied allowed).fixes path = some value) :
    schema.fixes path = some value ∨ path = ["message_proposals"] ∧
      "message_proposals" ∈ schema.required ∧ value = .array [] := by
  rcases path with _ | ⟨name, rest⟩
  · cases fixed
  obtain ⟨member, given⟩ := Option.ite_none_right_eq_some.mp fixed
  rw [fixes, if_pos (show name ∈ schema.required from member)]
  cases rest with
  | nil =>
    simp only [emptied, Schema.const, if_true] at given ⊢
    split at given
    · rename_i proposals
      obtain ⟨rfl, _⟩ := proposals
      exact .inr ⟨rfl, member, (Option.some.inj given).symm⟩
    · exact .inl given
  | cons => exact .inl given

theorem Plain.emptied (plain : schema.Plain) (allowed : List String) :
    (schema.emptied allowed).Plain := by
  intro path value fixed
  rcases emptied_fixes fixed with same | ⟨_, _, rfl⟩
  · exact plain path value same
  · rfl

theorem emptied_bound (present : Option Json) : (schema.emptied allowed).bound name present =
    (present.map (bindHandlerFixedConstants (schema.property name))).or
      (if name = "message_proposals" ∧ schema.withoutProposals allowed then some (.array [])
      else schema.const name) := rfl

/-- It is the same whether a required constant is supplied before or by the binding. -/
theorem Plain.supplied (plain : schema.Plain) (member : name ∈ schema.required)
    (fixed : schema.const name = some value) :
    bindHandlerFixedConstants schema ((Json.object members).supply name value) =
      bindHandlerFixedConstants schema (.object members) := by
  rw [Json.supply, plain.settles.object, plain.settles.object]
  refine congrArg Json.object (funext fun other => ?_)
  by_cases here : other = name
  · subst here
    have simple : bindHandlerFixedConstants (schema.property other) value = value :=
      bind_plain (plain.const member fixed)
    cases members other <;> simp [member, bound, fixed, simple]
  · rw [Function.update_of_ne here]

theorem Plain.canonicalized (plain : schema.Plain) :
    bindHandlerFixedConstants schema (canonicalizeEmptyProposals allowed schema (.object members)) =
      bindHandlerFixedConstants (schema.emptied allowed) (.object members) := by
  rw [canonicalizeEmptyProposals, (plain.emptied allowed).settles.object,
    show (schema.emptied allowed).required = schema.required from rfl]
  cases without : schema.withoutProposals allowed with
  | false =>
    rw [if_neg (by simp), plain.settles.object]
    simp only [emptied_bound, without, Bool.false_eq_true, and_false, if_false]
    rfl
  | true =>
    rw [if_pos rfl, Json.supply, plain.settles.object]
    refine congrArg Json.object (funext fun name => ?_)
    rw [emptied_bound]
    by_cases here : name = "message_proposals"
    · subst here
      have empty : bindHandlerFixedConstants (schema.property "message_proposals") (.array []) =
          .array [] := bind_plain rfl
      have member : "message_proposals" ∈ schema.required := by
        simp only [withoutProposals, Bool.and_eq_true, List.contains_iff_mem] at without
        exact without.1.2
      cases members "message_proposals" <;> simp [member, bound, without, empty]
    · simp [here, bound]

theorem Plain.assembled_eq (plain : schema.Plain) :
    assembled allowed schema (.object members) =
      bindHandlerFixedConstants (schema.emptied allowed) (.object members) := by
  rw [assembled, bindHandlerResultVersion]
  cases version : schema.fixedHandlerResultVersion with
  | false => exact plain.canonicalized
  | true =>
    have fixed : "schema_version" ∈ schema.required ∧
        schema.const "schema_version" = some (.string "1.0.0") := by
      cases schema <;> grind [fixedHandlerResultVersion, required, Schema.const]
    have kept : (schema.emptied allowed).const "schema_version" = some (.string "1.0.0") := by
      rw [← fixed.2, Schema.emptied, Schema.const]
      exact if_neg (by simp)
    exact plain.canonicalized.trans ((plain.emptied allowed).supplied fixed.1 kept)

end Schema

/-- The assembly only adds members, which the schema requires and which are its constants or the
empty proposal list; and a second assembly adds nothing. -/
theorem assembly_only_adds (plain : schema.Plain) (allowed : List String) (members : Members) :
    (∀ path, Follows (fun value => schema.fixes path = some value ∨ path = ["message_proposals"] ∧
        "message_proposals" ∈ schema.required ∧ value = .array [])
      ((Json.object members).along path)
      ((assembled allowed schema (.object members)).along path)) ∧
    assembled allowed schema (assembled allowed schema (.object members)) =
      assembled allowed schema (.object members) := by
  have settles := (plain.emptied allowed).settles
  rw [plain.assembled_eq]
  refine ⟨fun path => ?_, ?_⟩
  · have follows : Follows _ ((Json.object members).along path) _ := (plain.emptied allowed).along
    unfold Follows at *
    grind [Schema.emptied_fixes]
  · rw [settles.object, plain.assembled_eq, ← settles.object, settles.again]

namespace Sample

def reportSchema : Schema :=
  .read ["schema_version", "work_product"]
    (fun _ => .read ["kind"] (fun _ => .absent) (fun _ => some (.string "REPORT")) true)
    (fun name => if name = "schema_version" then some (.string "1.0.0") else none) true

def report : Members
  | "summary" => some (.string "done")
  | "work_product" => some (.object fun name =>
      if name = "title" then some (.string "Report") else none)
  | _ => none

theorem report_supplied_once :
    (assembled [] reportSchema (.object report)).along ["schema_version"] =
        some (.string "1.0.0") ∧
      (assembled [] reportSchema (.object report)).along ["work_product", "kind"] =
        some (.string "REPORT") ∧
      (assembled [] reportSchema (.object report)).along ["work_product", "title"] =
        some (.string "Report") ∧
      (assembled [] reportSchema (.object report)).along ["summary"] = some (.string "done") ∧
      assembled [] reportSchema (assembled [] reportSchema (.object report)) =
        assembled [] reportSchema (.object report) := by
  have plain : reportSchema.Plain := by
    rintro (_ | ⟨name, _ | ⟨next, _ | _⟩⟩) value fixed <;>
      simp [reportSchema, Schema.fixes, Schema.required, Schema.property, Schema.const] at fixed
    · rw [← fixed.2.2]
      rfl
    · rw [← fixed.2.2]
      rfl
  exact ⟨rfl, rfl, rfl, rfl, (assembly_only_adds plain [] report).2⟩

end Sample

end Tekroo.NativeAgent
