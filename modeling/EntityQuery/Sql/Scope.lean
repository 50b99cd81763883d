import EntityQuery.Sql.Aliases
import EntityQuery.Sql.Params
import EntityQuery.Sql.Statement

/-!
# Scopes

The state of one statement under construction: the aliases and parameters given out so far, the
entities besides the root that have been used, and which keywords have been opened. A construction
step that fails keeps what it has added.
-/
namespace EntityQuery.Sql

/-- What a statement is built over. -/
structure Context where
  registry : Registry
  root : Schema
  deriving Repr

/-- The state of a statement under construction. -/
structure Scope where
  aliases : Aliases
  params : Params
  /-- The entities besides the root whose fields have been used, in the order of first use. -/
  joined : List Schema
  /-- Whether a predicate with an OR is closed into one group, since others may follow. -/
  conjoined : Bool
  whereOpen : Bool
  orderOpen : Bool
  groupOpen : Bool
  deriving Repr

/-- A construction step. -/
abbrev Build (α : Type) := ExceptT QueryError (StateM Scope) α

/-- The scope of a new statement on a table. -/
def Scope.ofTable (table : String) : Scope :=
  ⟨.ofPrimary table, .empty, [], true, false, false, false⟩

/-- The context of a statement on a root entity, which must be known. -/
def Context.of (registry : Registry) (root : String) : Except QueryError Context :=
  (registry.get root).map fun schema => ⟨registry, schema⟩

/-- The scope of a new statement in a context. -/
def Context.scope (ctx : Context) : Scope := .ofTable ctx.root.table

/-- A step that reads no scope. -/
def Build.ofExcept {α : Type} (x : Except QueryError α) : Build α := ExceptT.mk (pure x)

/-- Runs a step. -/
def Build.runOn {α : Type} (step : Build α) (scope : Scope) : Except QueryError α × Scope :=
  step.run.run scope

section

variable {α β : Type}

@[simp] theorem Build.runOn_pure (x : α) (scope : Scope) :
    (pure x : Build α).runOn scope = (.ok x, scope) := rfl

@[simp] theorem Build.runOn_throw (e : QueryError) (scope : Scope) :
    (throw e : Build α).runOn scope = (.error e, scope) := rfl

@[simp] theorem Build.runOn_ofExcept (x : Except QueryError α) (scope : Scope) :
    (Build.ofExcept x).runOn scope = (x, scope) := rfl

@[simp] theorem Build.runOn_get (scope : Scope) :
    (get : Build Scope).runOn scope = (.ok scope, scope) := rfl

@[simp] theorem Build.runOn_set (scope scope' : Scope) :
    (set scope' : Build PUnit).runOn scope = (.ok ⟨⟩, scope') := rfl

@[simp] theorem Build.runOn_modify (f : Scope → Scope) (scope : Scope) :
    (modify f : Build PUnit).runOn scope = (.ok ⟨⟩, f scope) := rfl

/-- A failed step keeps its scope, and nothing runs after it. -/
theorem Build.runOn_bind (step : Build α) (next : α → Build β) (scope : Scope) :
    (step >>= next).runOn scope =
      match step.runOn scope with
      | (.ok x, scope') => (next x).runOn scope'
      | (.error e, scope') => (.error e, scope') := by
  show (ExceptT.bindCont next (step.runOn scope).1) (step.runOn scope).2 = _
  rcases step.runOn scope with ⟨_ | _, _⟩ <;> rfl

end

/-- Binds a value for a field and gives its placeholder. -/
def bindParam (field : String) (value : Value) : Build String := do
  let scope ← get
  let (name, params) := scope.params.bind field value
  set { scope with params }
  return name

/-- The entity that a field belongs to. -/
def Context.owner (ctx : Context) (ref : FieldRef) : Except QueryError Schema :=
  match ref.entity with
  | none => .ok ctx.root
  | some entity => if entity = ctx.root.entity then .ok ctx.root else ctx.registry.get entity

/-- Notes that an entity is used; the root needs no note. -/
def Scope.join (scope : Scope) (ctx : Context) (owner : Schema) : Scope :=
  if owner.entity = ctx.root.entity ∨ scope.joined.any (·.entity = owner.entity) then scope
  else { scope with joined := scope.joined ++ [owner] }

/-- The alias of a table. -/
def requestAlias (ctx : Context) (table : String) : Build String := do
  let scope ← get
  let (token, aliases) ← Build.ofExcept (scope.aliases.request ctx.registry table)
  set { scope with aliases }
  return token

/-- The column of a field, with the field. The field must be stored. -/
def column (ctx : Context) (ref : FieldRef) : Build (Column × Field) := do
  let owner ← Build.ofExcept (ctx.owner ref)
  let field ← Build.ofExcept (owner.field ref.name)
  if field.isVirtual then throw (.compile (.virtualField owner.entity field.name))
  modify (·.join ctx owner)
  let token ← requestAlias ctx owner.table
  return (⟨token, field.column⟩, field)

end EntityQuery.Sql
