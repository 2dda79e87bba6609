import RowServe.Declaration.Check
import RowServe.Resource.Statement

/-!
# Compiling declarations

Declarations are checked and turned into resources once. A nested extension takes the
fields, the lists and the table of its parent and adds its own fields, which are kept in
the column it extends.

Results:

* `mem_union`: a union has the members of both lists.
-/

namespace RowServe.Compile

/-! ## Lists of fields -/

/-- The first list and then what only the second one has. -/
def union [BEq α] (as bs : List α) : List α :=
  bs.foldl (fun out b => if out.contains b then out else out ++ [b]) as

/-- The lists that say what is read, filtered and changed, after all defaults. -/
structure Lists where
  getBy : List String
  listBy : List String
  deleteBy : List String
  excludedOps : List Operation
  excludeFromUpdates : List String

/-- The lists of a resource by itself. One row is read by its key and by unique columns,
    lists are filtered like single rows, and rows are deleted by key. -/
def ownLists (r : ResourceDecl) : Lists :=
  let pk := (r.primaryKey?.map (·.name)).toList
  let uniqueColumns :=
    (r.fields.filter fun f => f.unique && !f.primaryKey && f.sql.isSome).map (·.name)
  let getBy := r.info.getBy.getD (union pk uniqueColumns)
  { getBy := getBy
    listBy := r.info.listBy.getD getBy
    deleteBy := r.info.deleteBy.getD pk
    excludedOps := r.info.excludedOps
    excludeFromUpdates := r.info.excludeFromUpdates }

/-- The lists of a resource; a nested extension adds to those of its parent. -/
def listsOf (r : ResourceDecl) (parent : Option ResourceDecl) : Lists :=
  match parent with
  | none => ownLists r
  | some p =>
    let base := ownLists p
    { getBy := union base.getBy (r.info.getBy.getD [])
      listBy := union base.listBy (r.info.listBy.getD [])
      deleteBy := union base.deleteBy (r.info.deleteBy.getD [])
      excludedOps := union base.excludedOps r.info.excludedOps
      excludeFromUpdates := union base.excludeFromUpdates r.info.excludeFromUpdates }

/-! ## Fields -/

/-- The first resource that extends a column. -/
def kidOf? (ds : Declarations) (parent column : String) : Option ResourceDecl :=
  ds.find? fun r => r.info.extendsOn = some ⟨parent, column⟩

/-- What a field of a resource stands for. -/
def kindOf (ds : Declarations) (owner : ResourceDecl) (d : FieldDecl) (storage : Storage) :
    FieldKind :=
  if storage ≠ .column then .scalar
  else
    match d.target? with
    | some (table, column) =>
      if d.many then .manyToMany table column else .foreignKey table column
    | none =>
      match kidOf? ds owner.name d.name with
      | some kid => .nestedExtension kid.name
      | none => .scalar

/-- A declared field with what it stands for and where it is kept. -/
def fieldOf (ds : Declarations) (owner : ResourceDecl) (storage : Storage) (d : FieldDecl) :
    Field :=
  { decl := d
    kind := kindOf ds owner d storage
    storage := storage
    cast := if storage = .column then d.sql.map SqlType.cast else none }

/-- A field with a type is a column, one without is not kept. -/
def storageOf (d : FieldDecl) : Storage := if d.sql.isSome then .column else .virtual

/-- The fields that a nested extension adds to those of its parent. -/
def ownFields (kid parent : ResourceDecl) : List FieldDecl :=
  kid.fields.filter fun d => !parent.hasField d.name

/-- The fields of a resource. -/
def fieldsOf (ds : Declarations) (r owner : ResourceDecl) : List Field :=
  (owner.fields.map fun d => fieldOf ds owner (storageOf d) d) ++
    match r.info.extendsOn with
    | none => []
    | some ext => (ownFields r owner).map (fieldOf ds owner (.extension ext.column))

/-! ## Joins -/

/-- The stored fields among some names. -/
def stored (r : ResourceDecl) (names : List String) : List String :=
  names.filter fun n => (r.field? n).any (·.sql.isSome)

/-- The contract over some fields of a linked resource. -/
def lookupContract (linked : ResourceDecl) (names : List String) : Except ConfigError Contract :=
  ((names.filterMap linked.field?).mapM Contract.fieldOf).map fun fs => ⟨false, fs⟩

/-- A join with the contracts for filters on the linked row. -/
structure Linked where
  join : Join
  get : Contract
  list : Contract

/-- The join of a foreign key. -/
def linkedOf (ds : Declarations) (ownTable name table column : String) :
    Except ConfigError Linked :=
  match ds.byTable? table with
  | none => .error (.missingReference .table table)
  | some linked => do
    let lists := ownLists linked
    let getFields := stored linked lists.getBy
    let listFields := stored linked lists.listBy
    let get ← lookupContract linked getFields
    let list ← lookupContract linked listFields
    return {
      join := {
        field := name
        resource := linked.name
        ownTable := ownTable
        table := table
        column := column
        getFields := getFields
        listFields := listFields
        casts := Keyed.ofList (linked.fields.filterMap fun f =>
          f.sql.map fun sql => (f.name, sql.cast)) }
      get := get
      list := list }

/-- The joins of the foreign keys among some names, in order. -/
def linkedAll (ds : Declarations) (table : String) (fields : List Field) :
    List String → Except ConfigError (List Linked)
  | [] => .ok []
  | name :: rest =>
    match (fields.find? (·.name = name)).map Field.kind with
    | some (FieldKind.foreignKey linkedTable column) => do
      let l ← linkedOf ds table name linkedTable column
      let others ← linkedAll ds table fields rest
      return l :: others
    | _ => linkedAll ds table fields rest

/-! ## Contracts -/

/-- The contract over the fields that only a nested extension has. -/
def childContract (kid parent : ResourceDecl) : Except ConfigError Contract :=
  ((ownFields kid parent).mapM Contract.fieldOf).map fun fs => ⟨true, fs⟩

/-- The contracts of the nested extensions in the columns of a table, by column. -/
def nestedContracts (ds : Declarations) (owner : ResourceDecl) :
    List Field → Except ConfigError (List (String × Contract))
  | [] => .ok []
  | f :: rest =>
    match f.kind with
    | .nestedExtension child =>
      match ds.byName? child with
      | some kid => do
        let c ← childContract kid owner
        let others ← nestedContracts ds owner rest
        return (f.name, c) :: others
      | none => nestedContracts ds owner rest
    | _ => nestedContracts ds owner rest

/-- A contract over some fields for a request that writes. -/
def writeContract (complete : Bool) (nested : List (String × Contract)) (fields : List Field) :
    Except ConfigError Contract :=
  (fields.mapM fun f =>
    (Contract.fieldOf f.decl).map fun (spec, shape) =>
      match nested.lookup f.name with
      | some c => (spec, Contract.asNested { c with complete := complete })
      | none => (spec, shape)).map fun fs => ⟨complete, fs⟩

/-- The shape of a field in a request that reads. -/
def readShape (list : Bool) (linked : List Linked) (nested : List (String × Contract))
    (f : Field) (own : Shape) : Shape :=
  match f.kind with
  | .manyToMany _ _ => .links true
  | .foreignKey _ _ =>
    match linked.find? (·.join.field = f.name) with
    | some l => (if list then l.list else l.get).asLookup
    | none => .link
  | .nestedExtension _ =>
    match nested.lookup f.name with
    | some c => c.partial.asNested
    | none => own
  | .scalar => own

/-- A contract over the fields of some names for a request that reads. -/
def readContract (list : Bool) (linked : List Linked) (nested : List (String × Contract))
    (fields : List Field) (names : List String) : Except ConfigError Contract :=
  ((names.filterMap fun n => fields.find? (·.name = n)).mapM fun f =>
    (Contract.fieldOf f.decl).map fun (spec, shape) =>
      (spec, readShape list linked nested f shape)).map fun fs => ⟨false, fs⟩

/-- May a list be ordered by the field? -/
def isSortable (f : Field) : Bool := !f.decl.valueType.isCompound && !f.isManyToMany

/-! ## Resources -/

/-- The columns of other tables that hold lists of the keys of a table. -/
def dependentsOf (ds : Declarations) (table pk : String) : List Dependent :=
  (ds.filter (!·.isKid)).flatMap fun other =>
    match other.primaryKey? with
    | none => []
    | some otherPk =>
      (other.fields.filter fun f => f.isManyToMany && f.target? = some (table, pk)).map fun f =>
        ⟨other.tableName, f.name, otherPk.name⟩

/-- The parent of a nested extension. -/
def parentOf (ds : Declarations) (r : ResourceDecl) : Except ConfigError (Option ResourceDecl) :=
  match r.info.extendsOn with
  | none => .ok none
  | some ext =>
    match ds.byName? ext.parent with
    | some p => .ok (some p)
    | none => .error (.missingExtensionTarget r.name)

/-- The contracts of a resource. -/
def contractsOf (r : ResourceDecl) (parent : Option ResourceDecl) (pk : FieldDecl)
    (pkFromSession : Bool) (lists : Lists) (fields : List Field) (linked : List Linked)
    (nested : List (String × Contract)) : Except ConfigError Contracts := do
  let hidden := r.info.extendsOn.map (·.column)
  let writable := fields.filter fun f => !f.decl.readOnly && hidden ≠ some f.name
  let generated := pk.autoincrement.isSome || pkFromSession
  let post ← writeContract true nested
    (writable.filter fun f => !(f.decl.primaryKey && generated))
  let get ← readContract false linked nested fields lists.getBy
  let list ← readContract true linked nested fields lists.listBy
  let delete ← readContract false linked nested fields lists.deleteBy
  let update ← writeContract false nested
    (writable.filter fun f => !f.decl.primaryKey && !lists.excludeFromUpdates.contains f.name)
  let child ←
    match parent with
    | none => .ok none
    | some p => (childContract r p).map fun c => some c.partial
  return {
    post := post, get := get, list := list, delete := delete, update := update, child := child
    pagination := {
      allowed := lists.listBy.filter fun n => (fields.find? (·.name = n)).any isSortable
      default := [pk.name] } }

/-- Compiles one resource. -/
def resource (ds : Declarations) (r : ResourceDecl) : Except ConfigError Resource := do
  let parent ← parentOf ds r
  let owner := parent.getD r
  let pk ←
    match owner.primaryKey? with
    | some pk => .ok pk
    | none => .error (.invalidPrimaryKey r.name .missing)
  let table := owner.tableName
  let fields := fieldsOf ds r owner
  let lists := listsOf r parent
  let linked ← linkedAll ds table fields (union lists.getBy lists.listBy)
  let nested ← nestedContracts ds owner fields
  let pkFromSession := r.info.pkFromSession || owner.info.pkFromSession
  let contracts ← contractsOf r parent pk pkFromSession lists fields linked nested
  let dependents := dependentsOf ds table pk.name
  let view : TableView := ⟨table, pk.name, fields, linked.map (·.join)⟩
  let templates ← Statement.templates view (r.info.extendsOn.map (·.column)) dependents
  return {
    toTableView := view
    name := r.name
    route := r.route
    autoincrement := pk.autoincrement
    childFields := if parent.isSome then (ownFields r owner).map (·.name) else []
    extendsOn := r.info.extendsOn
    operations := Operation.all.filter fun op => !lists.excludedOps.contains op
    getBy := lists.getBy
    listBy := lists.listBy
    deleteBy := lists.deleteBy
    excludeFromUpdates := lists.excludeFromUpdates
    createViews := r.info.createViews
    permissions := r.info.permissions
    pkFromSession := pkFromSession
    hookModes := r.info.hookModes
    dependents := dependents
    contracts := contracts
    templates := templates }

/-- Compiles the remaining resources. -/
def resources (ds : Declarations) : List ResourceDecl → Except ConfigError (List Resource)
  | [] => .ok []
  | r :: rest => do
    let compiled ← resource ds r
    let others ← resources ds rest
    return compiled :: others

theorem mem_union [BEq α] [LawfulBEq α] (as bs : List α) (a : α) :
    a ∈ union as bs ↔ a ∈ as ∨ a ∈ bs := by
  unfold union
  induction bs generalizing as with
  | nil => simp
  | cons b bs ih =>
    simp only [List.foldl_cons, ih, List.mem_cons]
    split
    · rename_i h
      have hb : b ∈ as := by simpa using h
      constructor
      · rintro (h | h)
        · exact .inl h
        · exact .inr (.inr h)
      · rintro (h | h | h)
        · exact .inl h
        · exact .inl (h ▸ hb)
        · exact .inr h
    · simp only [List.mem_append, List.mem_singleton, or_assoc]

end RowServe.Compile

namespace RowServe.Declarations

/-- Checks the declarations and compiles all of them. -/
def resolve (ds : Declarations) : Except ConfigError Registry := do
  ds.check
  let tables ← TableDef.ofDecls ds
  let resources ← Compile.resources ds ds
  return ⟨resources, tables⟩

end RowServe.Declarations
