import NativeBoundary.Proofs.Build.Joining
import NativeBoundary.Proofs.Interface.Transcribed

/-!
# Metadata written as a document

The declarations of a group of metadata in the form of a document: a namespace that holds the
functions, a dictionary for each record, an interface marked as enum or error for each of these, and
an interface with its constructors and methods for each object.  Where every text spells a type, the
declarations denote what the items of the group denote, but that the fields of variants are required
and that a constructor with a name of its own carries it as an attribute.
-/

namespace NativeBoundary

namespace Metadata

/-! ## Nodes -/

/-- The text spells a type. -/
def Spelled (text : String) : Prop := ∃ expr, TypeExpr.readText .metadata text none = .ok expr

instance (text : String) : Decidable (Spelled text) :=
  match read : TypeExpr.readText .metadata text none with
  | .ok expr => isTrue ⟨expr, read⟩
  | .error _ => isFalse fun ⟨_, given⟩ => nomatch read.symm.trans given

/-- The type that a text spells; a text that spells none stands for a name. -/
def typeNode (text : String) : TypeExpr :=
  match TypeExpr.readText .metadata text none with
  | .ok expr => expr
  | .error _ => .named text

/-- The types of a callable are spelled, and what it may go without is never an empty text. -/
@[mk_iff]
structure ExpressibleSignature (inputs : List Slot) (output throws : Option String) : Prop where
  inputs : ∀ slot ∈ inputs, Spelled slot.type
  output : ∀ text ∈ output, text ≠ "" ∧ Spelled text
  throws : ∀ error ∈ throws, error ≠ ""

@[mk_iff]
structure ExpressibleVariants (variants : List Variant) : Prop where
  distinct : (variants.map Variant.name).Nodup
  spelled : ∀ variant ∈ variants, ∀ slot ∈ variant.fields, Spelled slot.type

instance (inputs : List Slot) (output throws : Option String) :
    Decidable (ExpressibleSignature inputs output throws) :=
  decidable_of_iff _ (expressibleSignature_iff inputs output throws).symm

instance (variants : List Variant) : Decidable (ExpressibleVariants variants) :=
  decidable_of_iff _ (expressibleVariants_iff variants).symm

/-- The item can be written as a declaration of a document, or as a part of one. -/
def Item.Expressible : Item → Prop
  | .function item => ExpressibleSignature item.inputs item.output item.throws
  | .method item => ExpressibleSignature item.inputs item.output item.throws
  | .constructor item => item.name ≠ "" ∧ ExpressibleSignature item.inputs none item.throws
  | .record item =>
      (item.fields.map Slot.name).Nodup ∧ ∀ slot ∈ item.fields, Spelled slot.type
  | .enum item => ExpressibleVariants item.variants
  | .error item => ExpressibleVariants item.variants
  | .object _ => True

instance : DecidablePred Item.Expressible
  | .function item =>
      inferInstanceAs (Decidable (ExpressibleSignature item.inputs item.output item.throws))
  | .method item =>
      inferInstanceAs (Decidable (ExpressibleSignature item.inputs item.output item.throws))
  | .constructor item => inferInstanceAs
      (Decidable (item.name ≠ "" ∧ ExpressibleSignature item.inputs none item.throws))
  | .record item => inferInstanceAs
      (Decidable ((item.fields.map Slot.name).Nodup ∧ ∀ slot ∈ item.fields, Spelled slot.type))
  | .enum item => inferInstanceAs (Decidable (ExpressibleVariants item.variants))
  | .error item => inferInstanceAs (Decidable (ExpressibleVariants item.variants))
  | .object _ => inferInstanceAs (Decidable True)

namespace Slot

def argument (slot : Slot) : Document.Argument := { name := slot.name, type := typeNode slot.type }

def member (slot : Slot) : Document.Member := { name := slot.name, type := typeNode slot.type }

end Slot

def Function.operation (item : Function) : Document.Operation where
  name := item.name
  arguments := item.inputs.map Slot.argument
  result := item.output.map typeNode
  attributes := some ((throwsAttributes item.throws).map Attribute.node)

def Method.operation (item : Method) : Document.Operation where
  name := item.name
  arguments := item.inputs.map Slot.argument
  result := item.output.map typeNode
  attributes := some ((throwsAttributes item.throws).map Attribute.node)

def Constructor.node (item : Constructor) : Document.Constructor where
  arguments := item.inputs.map Slot.argument
  attributes := some ((Model.labelsOf item.name ++ throwsAttributes item.throws).map Attribute.node)

/-- A variant with its payload, and without it where the union is flat. -/
def Variant.operation (flat : Bool) (variant : Variant) : Document.Operation where
  name := variant.name
  arguments := if flat then [] else variant.fields.map Slot.argument

/-! ## Declarations -/

def Record.declaration (item : Record) : Document.Declaration where
  name := item.name
  body := .dictionary (item.fields.map Slot.member)

def Enum.declaration (item : Enum) : Document.Declaration where
  name := item.name
  body := .interface [] (item.variants.map (Variant.operation false))
  attributes := some [Attribute.node { kind := .enum }]

def Error.declaration (item : Error) : Document.Declaration where
  name := item.name
  body := .interface [] (item.variants.map (Variant.operation item.flat))
  attributes := some [Attribute.node { kind := .error }]

namespace Group

variable (group : Group)

def constructorsOf (owner : String) : List Constructor :=
  group.constructors.filter (·.owner = owner)

def methodsOf (owner : String) : List Method :=
  group.methods.filter (·.owner = owner)

/-- An object with the constructors and the methods that the group has for its name. -/
def objectDeclaration (item : Object) : Document.Declaration where
  name := item.name
  body := .interface ((group.constructorsOf item.name).map Constructor.node)
    ((group.methodsOf item.name).map Method.operation)

def spaceDeclaration : Document.Declaration where
  name := group.crate.getD ""
  body := .space (group.functions.map Function.operation)

def declarations : List Document.Declaration :=
  group.spaceDeclaration :: (group.records.map Record.declaration ++
    group.enums.map Enum.declaration ++ group.errors.map Error.declaration ++
    group.objects.map group.objectDeclaration)

def transcript : Document where
  definitions := group.declarations

end Group

/-! ## Types and attributes -/

theorem typeNode_denote {text : String} (spelled : Spelled text) (names : Names) :
    (typeNode text).denote names = denoteText text names := by
  obtain ⟨expr, read⟩ := spelled
  rw [typeNode, denoteText, read]
  rfl

theorem output_denote {output : Option String}
    (spelled : ∀ text ∈ output, text ≠ "" ∧ Spelled text) (names : Names) :
    Document.denoteResult (output.map typeNode) names = denoteOutput output names := by
  cases output with
  | none => rfl
  | some text =>
      obtain ⟨stated, spelled⟩ := spelled text rfl
      rw [Option.map_some, Document.denoteResult, denoteOutput, if_neg stated,
        typeNode_denote spelled]

theorem reads_throwsAttributes {throws : Option String} (stated : ∀ error ∈ throws, error ≠ "")
    (owner : Option String) :
    ∀ entry ∈ throwsAttributes throws, entry.node.interpret owner = .ok entry := by
  cases throws with
  | none => exact List.forall_mem_nil _
  | some error =>
      exact List.forall_mem_singleton.mpr
        (Attribute.interpret_value rfl (by decide) (stated error rfl) owner)

theorem kind_of_mem_throwsAttributes {throws : Option String} {entry : Attribute}
    (member : entry ∈ throwsAttributes throws) : entry.kind = .throws := by
  cases throws with
  | none => cases member
  | some error => rw [List.mem_singleton.mp member]

theorem check_throws {site : Site} (accepts : .throws ∈ site.accepted) {throws : Option String}
    (stated : ∀ error ∈ throws, error ≠ "") (owner : Option String) (location : Option Location) :
    site.check owner location (some ((throwsAttributes throws).map Attribute.node)) =
      .ok (throwsAttributes throws) :=
  Site.check_nodes (reads_throwsAttributes stated owner)
    (fun _ member => kind_of_mem_throwsAttributes member ▸ accepts) location

theorem check_labels {name : String} {throws : Option String} (named : name ≠ "")
    (stated : ∀ error ∈ throws, error ≠ "") (owner : Option String) (location : Option Location) :
    Site.constructor.check owner location
        (some ((Model.labelsOf name ++ throwsAttributes throws).map Attribute.node)) =
      .ok (Model.labelsOf name ++ throwsAttributes throws) := by
  refine Site.check_nodes (List.forall_mem_append.mpr ⟨?_, reads_throwsAttributes stated owner⟩)
    (List.forall_mem_append.mpr ⟨?_, fun _ member => ?_⟩) location
  · unfold Model.labelsOf
    split
    · exact List.forall_mem_nil _
    · exact List.forall_mem_singleton.mpr (Attribute.interpret_value rfl (by decide) named owner)
  · unfold Model.labelsOf
    split
    · exact List.forall_mem_nil _
    · exact List.forall_mem_singleton.mpr
        (by decide : AttributeKind.name ∈ Site.constructor.accepted)
  · rw [kind_of_mem_throwsAttributes member]
    decide

/-- The name of a constructor is found among its attributes, or is that of the primary one. -/
theorem name_of_labels {name : String} (named : name ≠ "") (throws : Option String) :
    ((Attribute.valueOf .name (Model.labelsOf name ++ throwsAttributes throws)).filter
      (· ≠ "")).getD Model.primaryName = name := by
  unfold Model.labelsOf
  split
  · next primary =>
    rw [primary]
    cases throws <;> rfl
  · change (Option.filter (fun value => decide (value ≠ "")) (some name)).getD _ = name
    rw [Option.filter_some_pos (by simpa using named)]
    rfl

/-! ## Callables -/

namespace Slot

variable {slot : Slot}

theorem denote_argument (spelled : Spelled slot.type) (names : Names) :
    slot.argument.denote names = slot.denoteArgument names := by
  rw [Document.Argument.denote, denoteArgument, argument, typeNode_denote spelled]
  cases denoteText slot.type names <;> rfl

theorem denote_member (spelled : Spelled slot.type) (names : Names) :
    slot.member.denote names = slot.denoteField names := by
  rw [Document.Member.denote, denoteField, member, typeNode_denote spelled]
  cases denoteText slot.type names <;> rfl

theorem denote_payload (spelled : Spelled slot.type) (names : Names) :
    Document.Operation.denoteVariantField slot.argument names =
      (fun field => { field with required := true }) <$> slot.denoteField names := by
  rw [Document.Operation.denoteVariantField, denoteField, argument, typeNode_denote spelled]
  cases denoteText slot.type names <;> rfl

end Slot

theorem denote_arguments {inputs : List Slot} (spelled : ∀ slot ∈ inputs, Spelled slot.type)
    (names : Names) :
    (inputs.map Slot.argument).mapM (Document.Argument.denote · names) =
      inputs.mapM (Slot.denoteArgument · names) :=
  Results.mapM_map_congr fun slot member => Slot.denote_argument (spelled slot member) names

theorem Function.denote_operation {item : Function}
    (expressible : (Item.function item).Expressible) (names : Names) :
    item.operation.denoteFunction names = item.denote names := by
  obtain ⟨spelled, output, throws⟩ := expressible
  rw [Document.Operation.denoteFunction, Document.Operation.checkAttributes, operation,
    check_throws (by decide) throws, denote_arguments spelled, output_denote output]
  rfl

theorem Method.denote_operation {item : Method} (expressible : (Item.method item).Expressible)
    (owner : String) (names : Names) :
    item.operation.denoteMethod owner names = item.denote owner names := by
  obtain ⟨spelled, output, throws⟩ := expressible
  rw [Document.Operation.denoteMethod, Document.Operation.checkAttributes, operation,
    check_throws (by decide) throws, denote_arguments spelled, output_denote output]
  rfl

theorem Constructor.denote_node {item : Constructor}
    (expressible : (Item.constructor item).Expressible) (names : Names) :
    item.node.denote names = Model.Constructor.labelled <$> item.denote names := by
  obtain ⟨named, spelled, -, throws⟩ := expressible
  rw [Document.Constructor.denote, node, check_labels named throws, denote_arguments spelled,
    denote]
  cases item.inputs.mapM (Slot.denoteArgument · names) with
  | error problem => rfl
  | ok arguments =>
      change Except.ok (Model.Constructor.mk _ _ _ _) = _
      rw [name_of_labels named]
      rfl

/-! ## Records and unions -/

theorem Record.denote_declaration {item : Record} (expressible : (Item.record item).Expressible)
    (names : Names) :
    item.declaration.denoteRecord (item.fields.map Slot.member) names = item.denote names := by
  obtain ⟨distinct, spelled⟩ := expressible
  have apart : item.declaration.ensureDistinct .field
      ((item.fields.map Slot.member).map Document.Member.name) = .ok () := by
    rw [Document.Declaration.ensureDistinct_eq_ok_iff, List.map_map]
    exact distinct
  have fields : (item.fields.map Slot.member).mapM (Document.Member.denote · names) =
      item.fields.mapM (Slot.denoteField · names) :=
    Results.mapM_map_congr fun slot member => Slot.denote_member (spelled slot member) names
  rw [Document.Declaration.denoteRecord, apart, fields]
  rfl

/-- A field of a variant is required in a document. -/
theorem Variant.denote_operation {variant : Variant}
    (spelled : ∀ slot ∈ variant.fields, Spelled slot.type) (owner : String) (names : Names) :
    (variant.operation false).denoteVariant owner names =
      Model.Variant.demanding <$> variant.denote names := by
  have fields : (variant.fields.map Slot.argument).mapM
      (Document.Operation.denoteVariantField · names) =
        List.map (fun field => { field with required := true }) <$>
          variant.fields.mapM (Slot.denoteField · names) :=
    Results.mapM_map_eq fun slot member => Slot.denote_payload (spelled slot member) names
  change (_ >>= fun _ => (variant.fields.map Slot.argument).mapM _ >>= fun _ => _) = _
  rw [fields, denote]
  cases variant.fields.mapM (Slot.denoteField · names) <;> rfl

theorem Variant.denote_flat (variant : Variant) (owner : String) (names : Names) :
    (variant.operation true).denoteVariant owner names = .ok { name := variant.name } := rfl

theorem denoteVariants_eq {variants : List Variant} (distinct : (variants.map Variant.name).Nodup)
    (declaration : Document.Declaration) (flat : Bool) (names : Names) :
    declaration.denoteVariants [] (variants.map (Variant.operation flat)) names =
      (variants.map (Variant.operation flat)).mapM
        (Document.Operation.denoteVariant declaration.name · names) := by
  have apart : declaration.ensureDistinct .variant
      ((variants.map (Variant.operation flat)).map Document.Operation.name) = .ok () := by
    rw [Document.Declaration.ensureDistinct_eq_ok_iff, List.map_map]
    exact distinct
  rw [Document.Declaration.denoteVariants, apart]
  rfl

theorem denoteVariants_payloads {variants : List Variant}
    (expressible : ExpressibleVariants variants) (declaration : Document.Declaration)
    (names : Names) :
    declaration.denoteVariants [] (variants.map (Variant.operation false)) names =
      List.map Model.Variant.demanding <$> variants.mapM (Variant.denote · names) := by
  rw [denoteVariants_eq expressible.distinct]
  exact Results.mapM_map_eq fun variant member =>
    Variant.denote_operation (expressible.spelled variant member) declaration.name names

theorem denoteVariants_flat {variants : List Variant} (distinct : (variants.map Variant.name).Nodup)
    (declaration : Document.Declaration) (names : Names) :
    declaration.denoteVariants [] (variants.map (Variant.operation true)) names =
      .ok (variants.map fun variant => { name := variant.name }) := by
  rw [denoteVariants_eq distinct, Results.mapM_eq_ok, List.map_map, List.map_map]
  exact List.map_congr_left fun variant _ => variant.denote_flat declaration.name names

theorem Enum.denote_declaration {item : Enum} (expressible : (Item.enum item).Expressible)
    (names : Names) :
    item.declaration.denoteUnion [] (item.variants.map (Variant.operation false)) names =
      Model.Union.demanding <$> item.denote names := by
  have checked : item.declaration.checkAttributes .interface = .ok [{ kind := .enum }] := rfl
  rw [Document.Declaration.denoteUnion, checked, denoteVariants_payloads expressible, denote]
  cases item.variants.mapM (Variant.denote · names) <;> rfl

theorem Error.denote_declaration {item : Error} (expressible : (Item.error item).Expressible)
    (names : Names) :
    item.declaration.denoteUnion [] (item.variants.map (Variant.operation item.flat)) names =
      Model.Union.demanding <$> item.denote names := by
  have checked : item.declaration.checkAttributes .interface = .ok [{ kind := .error }] := rfl
  rw [Document.Declaration.denoteUnion, checked, denote]
  cases item.flat with
  | true =>
      rw [denoteVariants_flat expressible.distinct, if_pos rfl]
      refine congrArg (fun variants => Except.ok (Model.Union.mk item.name variants)) ?_
      rw [List.map_map]
      rfl
  | false =>
      rw [denoteVariants_payloads expressible, if_neg Bool.false_ne_true]
      cases item.variants.mapM (Variant.denote · names) <;> rfl

/-! ## Objects -/

namespace Group

/-- All of a group can be written, its objects have names of their own, and every member belongs to
one of them. -/
structure Expressible (group : Group) : Prop where
  records : ∀ item ∈ group.records, (Item.record item).Expressible
  enums : ∀ item ∈ group.enums, (Item.enum item).Expressible
  errors : ∀ item ∈ group.errors, (Item.error item).Expressible
  functions : ∀ item ∈ group.functions, (Item.function item).Expressible
  constructors : ∀ item ∈ group.constructors, (Item.constructor item).Expressible
  methods : ∀ item ∈ group.methods, (Item.method item).Expressible
  distinct : (group.objects.map Object.name).Nodup
  owned : ∀ member ∈ group.members, member.1 ∈ group.objects.map Object.name

variable {group : Group} {item : Object}

/-- The names of the constructors and then of the methods of an owner. -/
def callablesOf (group : Group) (owner : String) : List String :=
  (group.constructorsOf owner).map Constructor.name ++ (group.methodsOf owner).map Method.name

/-- An object as the document declares it. -/
def denoteObject (group : Group) (names : Names) (item : Object) : Except Problem Model.Object :=
  (group.objectDeclaration item).denotePlain
    ((group.constructorsOf item.name).map Constructor.node)
    ((group.methodsOf item.name).map Method.operation) names

variable (expressible : group.Expressible)

include expressible

theorem denote_nodes (owner : String) (names : Names) :
    ((group.constructorsOf owner).map Constructor.node).mapM
        (Document.Constructor.denote · names) =
      List.map Model.Constructor.labelled <$>
        (group.constructorsOf owner).mapM (Constructor.denote · names) :=
  Results.mapM_map_eq fun item member =>
    Constructor.denote_node (expressible.constructors item (List.mem_filter.mp member).1) names

theorem names_of_nodes {owner : String} {names : Names} {built : List Model.Constructor}
    (read : ((group.constructorsOf owner).map Constructor.node).mapM
      (Document.Constructor.denote · names) = .ok built) :
    built.map Model.Constructor.name = (group.constructorsOf owner).map Constructor.name := by
  rw [denote_nodes expressible] at read
  obtain ⟨plain, readPlain, rfl⟩ := Results.map_eq_ok.mp read
  rw [List.map_map]
  exact Results.keys_of_map_ok Constructor.denote_name (Results.mapM_eq_ok.mp readPlain)

/-- The document does not take two callables of one name in an object. -/
theorem callablesOf_nodup {names : Names} {object : Model.Object}
    (denoted : group.denoteObject names item = .ok object) :
    (group.callablesOf item.name).Nodup := by
  obtain ⟨attributes, -, read⟩ := Document.Declaration.denotePlain_eq_ok.mp denoted
  obtain ⟨built, _, readNodes, distinct, -, -⟩ := Document.Declaration.denoteObject_parts read
  rw [names_of_nodes expressible readNodes, List.map_map] at distinct
  exact Document.Declaration.nodup_of_ensureDistinct distinct

/-- Where its callables have names of their own, an object is the one that the group completes. -/
theorem denoteObject_eq (distinct : (group.callablesOf item.name).Nodup) (names : Names) :
    group.denoteObject names item =
      Model.Object.labelled <$> group.complete names { name := item.name } := by
  have checked : (group.objectDeclaration item).checkAttributes .interface = .ok [] := rfl
  have nodes := denote_nodes expressible item.name names
  have operations : ((group.methodsOf item.name).map Method.operation).mapM
      (Document.Operation.denoteMethod item.name · names) =
        (group.methodsOf item.name).mapM (Method.denote item.name · names) :=
    Results.mapM_map_congr fun method member => Method.denote_operation
      (expressible.methods method (List.mem_filter.mp member).1) item.name names
  -- The document checks names behind the constructors, so these are taken first on both sides.
  rw [denoteObject, Document.Declaration.denotePlain, checked, complete]
  change (group.objectDeclaration item).denoteObject [] _ _ names =
    Model.Object.labelled <$> ((group.constructorsOf item.name).mapM
      (Constructor.denote · names) >>= fun _ => _)
  cases read : (group.constructorsOf item.name).mapM (Constructor.denote · names) with
  | error problem =>
      rw [read] at nodes
      rw [Document.Declaration.denoteObject, nodes]
      rfl
  | ok constructors =>
      rw [read] at nodes
      have apart : ((constructors.map Model.Constructor.labelled).map Model.Constructor.name ++
          ((group.methodsOf item.name).map Method.operation).map
            Document.Operation.name).Nodup := by
        rw [names_of_nodes expressible nodes, List.map_map]
        exact distinct
      rw [Document.Declaration.denoteObject_eq nodes apart]
      change _ <$> ((group.methodsOf item.name).map Method.operation).mapM
        (Document.Operation.denoteMethod item.name · names) = _
      rw [operations]
      change _ = Model.Object.labelled <$> ((group.methodsOf item.name).mapM
        (Method.denote item.name · names) >>= fun _ => _)
      cases (group.methodsOf item.name).mapM (Method.denote item.name · names) <;> rfl

/-! ## Contents -/

theorem contents_spaceDeclaration (names : Names) :
    group.spaceDeclaration.contents names =
      { functions := group.functions.map (·.denote names) } := by
  have functions : (group.functions.map Function.operation).map
      (Document.Operation.denoteFunction · names) = group.functions.map (·.denote names) := by
    rw [List.map_map]
    exact List.map_congr_left fun item member =>
      Function.denote_operation (expressible.functions item member) names
  rw [← functions]
  rfl

/-- What the document declares, list by list. -/
theorem sum_contents (names : Names) :
    Contents.sum (group.declarations.map (Document.Declaration.contents · names)) = {
      records := group.records.map (·.denote names)
      enums := group.enums.map fun item => Model.Union.demanding <$> item.denote names
      errors := group.errors.map fun item => Model.Union.demanding <$> item.denote names
      functions := group.functions.map (·.denote names)
      objects := group.objects.map (group.denoteObject names) } := by
  have records : group.records.map (fun item => item.declaration.contents names) =
      group.records.map fun item => ({ records := [item.denote names] } : Contents) := by
    refine List.map_congr_left fun item member => ?_
    rw [← Record.denote_declaration (expressible.records item member)]
    rfl
  have enums : group.enums.map (fun item => item.declaration.contents names) =
      group.enums.map fun item =>
        ({ enums := [Model.Union.demanding <$> item.denote names] } : Contents) := by
    refine List.map_congr_left fun item member => ?_
    rw [← Enum.denote_declaration (expressible.enums item member)]
    rfl
  have errors : group.errors.map (fun item => item.declaration.contents names) =
      group.errors.map fun item =>
        ({ errors := [Model.Union.demanding <$> item.denote names] } : Contents) := by
    refine List.map_congr_left fun item member => ?_
    rw [← Error.denote_declaration (expressible.errors item member)]
    rfl
  have objects : group.objects.map (fun item => (group.objectDeclaration item).contents names) =
      group.objects.map fun item =>
        ({ objects := [group.denoteObject names item] } : Contents) := rfl
  simp only [declarations, List.map_cons, List.map_append, List.map_map, Function.comp_def,
    contents_spaceDeclaration expressible, records, enums, errors, objects]
  have nothing {α β : Type} (items : List α) : items.flatMap (fun _ => ([] : List β)) = [] :=
    List.flatMap_eq_nil_iff.mpr fun _ _ => rfl
  simp [Contents.sum_eq, List.flatMap_map, ← List.map_eq_flatMap, nothing]

omit expressible

/-! ## Names -/

theorem flatMap_declarations {α : Type} (view : Document.Declaration → List α) (group : Group) :
    group.declarations.flatMap view =
      view group.spaceDeclaration ++ (group.records.flatMap (view ·.declaration) ++
        (group.enums.flatMap (view ·.declaration) ++ (group.errors.flatMap (view ·.declaration) ++
          group.objects.flatMap fun item => view (group.objectDeclaration item)))) := by
  simp only [declarations, List.flatMap_cons, List.flatMap_append, List.flatMap_map,
    List.append_assoc]

/-- The document introduces the names that the group introduces. -/
theorem bindings_declarations (group : Group) :
    group.declarations.flatMap Document.Declaration.bindings = group.introduced := by
  rw [flatMap_declarations, introduced, List.map_eq_flatMap, List.map_eq_flatMap,
    List.map_eq_flatMap, List.map_eq_flatMap, List.append_assoc, List.append_assoc]
  rfl

theorem introduced_declarations (group : Group) :
    ∀ declaration ∈ group.declarations, ∃ type, declaration.introduced = .ok type := by
  simp only [declarations, List.forall_mem_cons, List.forall_mem_append, List.forall_mem_map]
  exact ⟨⟨_, rfl⟩, ⟨⟨fun _ _ => ⟨_, rfl⟩, fun _ _ => ⟨_, rfl⟩⟩, fun _ _ => ⟨_, rfl⟩⟩,
    fun _ _ => ⟨_, rfl⟩⟩

/-- The document takes what the group takes, and besides the namespace. -/
theorem entries_declarations (group : Group) :
    (group.declarations.flatMap Document.Declaration.entries).Perm
      (.space :: (group.entries ++ group.objects.map fun item => .declared .object item.name)) := by
  have functions : group.spaceDeclaration.entries =
      .space :: group.functions.map fun item => .declared .function item.name :=
    congrArg (Entry.space :: ·) (List.map_map ..)
  have records (item : Record) : item.declaration.entries = [.declared .record item.name] := rfl
  have enums (item : Enum) : item.declaration.entries = [.declared .enum item.name] := rfl
  have errors (item : Error) : item.declaration.entries = [.declared .error item.name] := rfl
  have objects (item : Object) :
      (group.objectDeclaration item).entries = [.declared .object item.name] := rfl
  rw [flatMap_declarations, functions]
  simp only [records, enums, errors, objects, ← List.map_eq_flatMap]
  refine List.perm_iff_count.mpr fun _ => ?_
  simp only [entries, List.cons_append, List.count_cons, List.count_append]
  omega

end Group

end Metadata

end NativeBoundary
