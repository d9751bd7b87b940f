import NativeBoundary.Proofs.Interface.Reachability

/-!
# Members of declarations

A property of all fields, variant fields and arguments that are read from either source is one of
all members in a built interface.  This holds of members that metadata puts to objects of the
document, and of those of callback interfaces, as of any other.
-/

namespace NativeBoundary

/-- What is said of the fields of records, of the fields of variants and of arguments. -/
structure Parts where
  field : Model.Field → Prop
  payload : Model.Field → Prop
  argument : Model.Argument → Prop

namespace Parts

/-- All members of a declaration have what is said of them. -/
def trait (parts : Parts) : Trait where
  record record := ∀ field ∈ record.fields, parts.field field
  union union := ∀ variant ∈ union.variants, ∀ field ∈ variant.fields, parts.payload field
  callback callback :=
    ∀ method ∈ callback.methods, ∀ argument ∈ method.arguments, parts.argument argument
  function function := ∀ argument ∈ function.arguments, parts.argument argument
  object object :=
    (∀ constructor ∈ object.constructors,
      ∀ argument ∈ constructor.arguments, parts.argument argument) ∧
    ∀ method ∈ object.methods, ∀ argument ∈ method.arguments, parts.argument argument

/-- Whatever is read as a member where names have these types has what is said of it. -/
structure Denoted (parts : Parts) (names : Names) : Prop where
  field : ∀ {member : Document.Member} {field},
    member.denote names = .ok field → parts.field field
  payload : ∀ {argument : Document.Argument} {field},
    Document.Operation.denoteVariantField argument names = .ok field → parts.payload field
  argument : ∀ {argument : Document.Argument} {read},
    argument.denote names = .ok read → parts.argument read
  itemField : ∀ {slot : Metadata.Slot} {field},
    slot.denoteField names = .ok field → parts.field field ∧ parts.payload field
  itemArgument : ∀ {slot : Metadata.Slot} {argument},
    slot.denoteArgument names = .ok argument → parts.argument argument

variable {parts : Parts} {names : Names}

/-! ## Callables and declarations of a document -/

section Document

open Document

variable (denoted : parts.Denoted names)

include denoted

theorem Denoted.function {operation : Operation} {function : Model.Function}
    (read : operation.denoteFunction names = .ok function) : parts.trait.function function := by
  obtain ⟨_, -, arguments, readArguments, _, -, rfl⟩ := Operation.denoteFunction_eq_ok.mp read
  exact Results.forall_of_mapM denoted.argument readArguments

theorem Denoted.method {operation : Operation} {owner : String} {method : Model.Method}
    (read : operation.denoteMethod owner names = .ok method) :
    ∀ argument ∈ method.arguments, parts.argument argument := by
  obtain ⟨_, -, arguments, readArguments, _, -, rfl⟩ := Operation.denoteMethod_eq_ok.mp read
  exact Results.forall_of_mapM denoted.argument readArguments

theorem Denoted.constructor {constructor : Constructor} {built : Model.Constructor}
    (read : constructor.denote names = .ok built) :
    ∀ argument ∈ built.arguments, parts.argument argument := by
  obtain ⟨_, -, arguments, readArguments, rfl⟩ := Constructor.denote_eq_ok.mp read
  exact Results.forall_of_mapM denoted.argument readArguments

theorem Denoted.record {declaration : Declaration} {members : List Member}
    {record : Model.Record} (read : declaration.denoteRecord members names = .ok record) :
    parts.trait.record record := by
  obtain ⟨_, -, -, fields, readFields, rfl⟩ := Declaration.denoteRecord_eq_ok.mp read
  exact Results.forall_of_mapM denoted.field readFields

theorem Denoted.variant {operation : Operation} {owner : String} {variant : Model.Variant}
    (read : operation.denoteVariant owner names = .ok variant) :
    ∀ field ∈ variant.fields, parts.payload field := by
  obtain ⟨-, _, -, fields, readFields, rfl⟩ := Operation.denoteVariant_eq_ok.mp read
  exact Results.forall_of_mapM denoted.payload readFields

theorem Denoted.union {declaration : Declaration} {constructors : List Constructor}
    {operations : List Operation} {union : Model.Union}
    (read : declaration.denoteUnion constructors operations names = .ok union) :
    parts.trait.union union := by
  obtain ⟨-, -, variants, readVariants, rfl⟩ := Declaration.denoteUnion_parts read
  exact Results.forall_of_mapM denoted.variant readVariants

omit denoted in
/-- Words have no fields. -/
theorem union_of_words {declaration : Declaration} {values : List String} {union : Model.Union}
    (read : declaration.denoteWords values = .ok union) : parts.trait.union union := by
  obtain ⟨_, -, _, -, rfl⟩ := Declaration.denoteWords_eq_ok.mp read
  intro variant member field inside
  obtain ⟨value, -, rfl⟩ := List.mem_map.mp member
  cases inside

theorem Denoted.object {declaration : Declaration} {constructors : List Constructor}
    {operations : List Operation} {object : Model.Object}
    (read : declaration.denotePlain constructors operations names = .ok object) :
    parts.trait.object object := by
  obtain ⟨attributes, -, rest⟩ := Declaration.denotePlain_eq_ok.mp read
  obtain ⟨built, methods, readConstructors, -, readMethods, rfl⟩ :=
    Declaration.denoteObject_parts rest
  exact ⟨Results.forall_of_mapM denoted.constructor readConstructors,
    Results.forall_of_mapM denoted.method readMethods⟩

theorem Denoted.callback {declaration : Declaration} {operations : List Operation}
    {callback : Model.CallbackInterface}
    (read : declaration.denoteCallback operations names = .ok callback) :
    parts.trait.callback callback := by
  obtain ⟨methods, readMethods, rfl⟩ := Declaration.denoteCallback_parts read
  exact Results.forall_of_mapM denoted.method readMethods

end Document

/-! ## Items of metadata -/

section Metadata

open Metadata

variable (denoted : parts.Denoted names)

include denoted

theorem Denoted.itemRecord {item : Metadata.Record} {record : Model.Record}
    (read : item.denote names = .ok record) : parts.trait.record record := by
  obtain ⟨fields, readFields, rfl⟩ := Metadata.Record.denote_eq_ok.mp read
  exact Results.forall_of_mapM (fun readSlot => (denoted.itemField readSlot).1) readFields

theorem Denoted.itemVariant {item : Metadata.Variant} {variant : Model.Variant}
    (read : item.denote names = .ok variant) : ∀ field ∈ variant.fields, parts.payload field := by
  obtain ⟨fields, readFields, rfl⟩ := Metadata.Variant.denote_eq_ok.mp read
  exact Results.forall_of_mapM (fun readSlot => (denoted.itemField readSlot).2) readFields

theorem Denoted.itemEnum {item : Metadata.Enum} {union : Model.Union}
    (read : item.denote names = .ok union) : parts.trait.union union := by
  obtain ⟨variants, readVariants, rfl⟩ := Metadata.Enum.denote_eq_ok.mp read
  exact Results.forall_of_mapM denoted.itemVariant readVariants

theorem Denoted.itemError {item : Metadata.Error} {union : Model.Union}
    (read : item.denote names = .ok union) : parts.trait.union union := by
  rcases Metadata.Error.denote_eq_ok.mp read with ⟨-, rfl⟩ | ⟨-, variants, readVariants, rfl⟩
  · intro variant member field inside
    obtain ⟨_, -, rfl⟩ := List.mem_map.mp member
    cases inside
  · exact Results.forall_of_mapM denoted.itemVariant readVariants

theorem Denoted.itemFunction {item : Metadata.Function} {function : Model.Function}
    (read : item.denote names = .ok function) : parts.trait.function function := by
  obtain ⟨arguments, readArguments, _, -, rfl⟩ := Metadata.Function.denote_eq_ok.mp read
  exact Results.forall_of_mapM denoted.itemArgument readArguments

theorem Denoted.itemConstructor {item : Metadata.Constructor} {constructor : Model.Constructor}
    (read : item.denote names = .ok constructor) :
    ∀ argument ∈ constructor.arguments, parts.argument argument := by
  obtain ⟨arguments, readArguments, rfl⟩ := Metadata.Constructor.denote_eq_ok.mp read
  exact Results.forall_of_mapM denoted.itemArgument readArguments

theorem Denoted.itemMethod {item : Metadata.Method} {owner : String} {method : Model.Method}
    (read : item.denote owner names = .ok method) :
    ∀ argument ∈ method.arguments, parts.argument argument := by
  obtain ⟨arguments, readArguments, _, -, rfl⟩ := Metadata.Method.denote_eq_ok.mp read
  exact Results.forall_of_mapM denoted.itemArgument readArguments

/-- What metadata puts to an object has what is said of it, like what was there before. -/
theorem Denoted.completed {group : Group} {object completed : Model.Object}
    (own : parts.trait.object object) (done : group.complete names object = .ok completed) :
    parts.trait.object completed := by
  obtain ⟨constructors, methods, readConstructors, readMethods, rfl⟩ :=
    Group.complete_eq_ok.mp done
  exact ⟨List.forall_mem_append.mpr
      ⟨own.1, Results.forall_of_mapM denoted.itemConstructor readConstructors⟩,
    List.forall_mem_append.mpr
      ⟨own.2, Results.forall_of_mapM denoted.itemMethod readMethods⟩⟩

end Metadata

theorem trait_denoted (denoted : parts.Denoted names) : parts.trait.Denoted names where
  record := denoted.record
  words := union_of_words
  union := denoted.union
  callback := denoted.callback
  function := denoted.function
  object := denoted.object
  itemRecord := denoted.itemRecord
  itemEnum := denoted.itemEnum
  itemError := denoted.itemError
  itemFunction := denoted.itemFunction
  itemObject _ := ⟨List.forall_mem_nil _, List.forall_mem_nil _⟩
  complete := denoted.completed

/-! ## Members of a built interface -/

/-- Members are the same whether or not anything was derived. -/
theorem satisfies_of_declared {interface : Interface}
    (holds : interface.declared.Satisfies parts.trait) : interface.Satisfies parts.trait where
  records := holds.records
  enums := holds.enums
  errors := holds.errors
  callbacks callback member method inside :=
    holds.callbacks callback.declared (List.mem_map_of_mem member) method.declared
      (List.mem_map_of_mem inside)
  functions function member := holds.functions function.declared (List.mem_map_of_mem member)
  objects object member := by
    obtain ⟨constructors, methods⟩ := holds.objects object.declared (List.mem_map_of_mem member)
    exact ⟨fun constructor inside =>
        constructors constructor.declared (List.mem_map_of_mem inside),
      fun method inside => methods method.declared (List.mem_map_of_mem inside)⟩

/-- Every member of a built interface has what is said of all members that are read. -/
theorem satisfies_of_build {document : Option Document} {items : List Metadata.Item}
    {settings : Settings} {interface : Interface}
    (built : Interface.build document items settings = .ok interface)
    (denoted : parts.Denoted interface.names) : interface.Satisfies parts.trait :=
  satisfies_of_declared (Interface.declared_satisfies_of_build built (trait_denoted denoted))

end Parts

/-- Names of a built interface stand for types whose declared parts they bind. -/
theorem Interface.closed_of_build {document : Option Document} {items : List Metadata.Item}
    {settings : Settings} {interface : Interface}
    (built : build document items settings = .ok interface) : interface.names.Closed := by
  obtain ⟨group, brought, -, brings, sameRegistry, -⟩ := brought_of_build built
  rw [names, sameRegistry]
  exact (plain_of_bring brings).closed

end NativeBoundary
