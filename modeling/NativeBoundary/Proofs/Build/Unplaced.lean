import NativeBoundary.Build
import NativeBoundary.Proofs.Build.Refinement
import NativeBoundary.Proofs.Document.Unplaced

/-!
# Builds without locations

A build from a document without locations and a build from the document itself end alike: with one
interface, or with problems that differ in their locations alone.
-/

namespace NativeBoundary

namespace Registry

theorem discoverOne_unplaced (declaration : Document.Declaration) :
    discoverOne declaration.unplaced = (discoverOne declaration).unplaced := by
  simp only [discoverOne, Document.Declaration.introduced_unplaced, Action.unplaced_bind,
    Action.unplaced_lift]
  congr 1
  funext introduced
  cases introduced with
  | none => rfl
  | some type =>
      simp only [Action.unplaced_bind, Action.unplaced_pure,
        ← define_unplaced declaration.name type declaration.location]
      rfl

theorem discover_unplaced (declarations : List Document.Declaration) :
    discover (declarations.map Document.Declaration.unplaced) =
      (discover declarations).unplaced := by
  simp only [discover, Action.each_unplaced discoverOne_unplaced, Action.unplaced_bind,
    Action.unplaced_note]

end Registry

namespace Interface

open Metadata (Item)

theorem onRegistry_unplaced {α : Type} (action : Action Registry α) :
    onRegistry action.unplaced = (onRegistry action).unplaced :=
  (Action.unplaced_onPart _ _ action).symm

theorem ensureOpen_unplaced : ensureOpen.unplaced = ensureOpen := by
  simp only [ensureOpen, Action.unplaced_bind, Action.unplaced_get, Action.unplaced_ensure,
    Problem.unplaced]

theorem addSpace_unplaced (name : Tag) (location : Option Location) :
    addSpace name none = (addSpace name location).unplaced := by
  simp only [addSpace, Action.unplaced_bind, ensureOpen_unplaced, Action.unplaced_get]
  congr 1
  funext _
  congr 1
  funext interface
  cases interface.space <;> rfl

theorem addTo_unplaced {α : Type} (kind : DeclarationKind) (nameOf : α → String)
    (declared : Interface → List α) (update : List α → Interface → Interface) (item : α) :
    (addTo kind nameOf declared update item).unplaced =
      addTo kind nameOf declared update item := by
  simp only [addTo, Action.unplaced_bind, ensureOpen_unplaced, Action.unplaced_get,
    Action.unplaced_ensure, Action.unplaced_set, Action.unplaced_note, Problem.unplaced]

theorem addFunction_unplaced (function : Model.Function) (location : Option Location) :
    addFunction function none = (addFunction function location).unplaced := by
  simp only [addFunction, Action.unplaced_bind, ensureOpen_unplaced, Action.unplaced_get,
    Action.unplaced_ensure, Action.unplaced_set, Problem.unplaced]

theorem addOperation_unplaced (operation : Document.Operation) :
    addOperation operation.unplaced = (addOperation operation).unplaced := by
  simp only [addOperation, Document.Operation.toFunction_unplaced, onRegistry_unplaced,
    Action.unplaced_bind, ← addFunction_unplaced _ operation.location]
  rfl

theorem declareOne_unplaced (declaration : Document.Declaration) :
    declareOne declaration.unplaced = (declareOne declaration).unplaced := by
  have body : declaration.unplaced.body = declaration.body.unplaced := rfl
  rw [declareOne, declareOne, body]
  cases declaration.body with
  | space functions =>
      simp only [Document.Body.unplaced, Document.Declaration.checkAttributes_unplaced,
        Action.forAll_unplaced addOperation_unplaced, Action.unplaced_bind, Action.unplaced_lift,
        ← addSpace_unplaced _ declaration.location]
      rfl
  | dictionary members =>
      simp only [Document.Body.unplaced, Document.Declaration.toRecord_unplaced,
        onRegistry_unplaced, Action.unplaced_bind, addRecord, addTo_unplaced]
  | enum values =>
      simp only [Document.Body.unplaced, Document.Declaration.checkAttributes_unplaced,
        Document.Declaration.ensureDistinct_unplaced, Action.unplaced_bind, Action.unplaced_lift,
        Action.unplaced_ite, addError, addEnum, addTo_unplaced]
      rfl
  | interface constructors operations =>
      simp only [Document.Body.unplaced, Document.Declaration.checkAttributes_unplaced,
        Document.Declaration.toVariants_unplaced, Document.Declaration.toObject_unplaced,
        onRegistry_unplaced, Action.unplaced_bind, Action.unplaced_lift,
        Action.unplaced_ite, addError, addEnum, addObject, addTo_unplaced]
      rfl
  | callbackInterface operations =>
      simp only [Document.Body.unplaced, Document.Declaration.toCallback_unplaced,
        onRegistry_unplaced, Action.unplaced_bind, addCallback, addTo_unplaced]
  | typedef typeName => rfl

theorem declare_unplaced (declarations : List Document.Declaration) :
    declare (declarations.map Document.Declaration.unplaced) = (declare declarations).unplaced :=
  Action.forAll_unplaced declareOne_unplaced declarations

/-- What follows the document is the same action in both builds. -/
theorem assemble_unplaced (document : Option Document) (items : List Item)
    (settings : Settings) :
    (assemble (document.map Document.unplaced) items settings).unplaced =
      (assemble document items settings).unplaced := by
  have declarations : ((document.map Document.unplaced).map Document.definitions).getD [] =
      ((document.map Document.definitions).getD []).map Document.Declaration.unplaced := by
    cases document <;> rfl
  simp only [assemble, declarations, Registry.discover_unplaced, declare_unplaced,
    onRegistry_unplaced, Action.unplaced_bind, Action.unplaced_unplaced]

theorem build_eq_map (document : Option Document) (items : List Item) (settings : Settings) :
    build document items settings =
      (fun _ => (buildOutcome document items settings).state) <$>
        (buildOutcome document items settings).result := by
  simp only [build]
  cases (buildOutcome document items settings).result <;> rfl

variable {first second : Document} {items : List Item} {settings : Settings}

theorem unplaced_build_eq (alike : first.unplaced = second.unplaced) :
    Results.unplaced (build (some first) items settings) =
      Results.unplaced (build (some second) items settings) := by
  have assembles : (assemble (some first) items settings).unplaced =
      (assemble (some second) items settings).unplaced := by
    rw [← assemble_unplaced (some first), ← assemble_unplaced (some second), Option.map_some,
      Option.map_some, alike]
  obtain ⟨results, states, -⟩ := Outcome.mk.inj (congrFun assembles (empty settings.versionTag))
  rw [build_eq_map, build_eq_map, Results.unplaced_map, Results.unplaced_map, buildOutcome,
    buildOutcome, Action.run, Action.run, results, states]

/-- Documents that are equal but for their file, their locations and the way in which an absent list
of attributes is written make one interface, or meet problems of one cause and one name. -/
theorem build_unplaced (alike : first.unplaced = second.unplaced) :
    (∃ interface, build (some first) items settings = .ok interface ∧
      build (some second) items settings = .ok interface) ∨
    ∃ problem other, build (some first) items settings = .error problem ∧
      build (some second) items settings = .error other ∧
      problem.cause = other.cause ∧ problem.name = other.name :=
  Results.unplaced_eq_iff.mp (unplaced_build_eq alike)

/-- The document of a shop, laid out over a file. -/
def shopFile : Document where
  file := some "shop.udl"
  definitions := [
    { name := "shop"
      body := .space [{
        name := "open"
        result := some { TypeExpr.named "Store" with location := some ⟨"shop.udl", 2, 3⟩ }
        attributes := some [] }]
      location := some ⟨"shop.udl", 1, 1⟩ },
    { name := "Point"
      body := .dictionary [{
        name := "x", type := .named "Extra", location := some ⟨"shop.udl", 5, 3⟩ }]
      attributes := some [] },
    { name := "Store"
      body := .interface [{ attributes := some [], location := some ⟨"shop.udl", 8, 3⟩ }]
        [{ name := "size", result := some (.named "u32") }]
      location := some ⟨"shop.udl", 7, 1⟩ }]

theorem build_unplaced_shop :
    shopDocument ≠ shopFile ∧ ∃ interface,
      build (some shopDocument) shopItems {} = .ok interface ∧
      build (some shopFile) shopItems {} = .ok interface := by
  have built := build_ok_of_result
    (by decide +kernel : (buildOutcome (some shopDocument) shopItems {}).result = .ok ())
  have alike : shopDocument.unplaced = shopFile.unplaced := rfl
  refine ⟨by decide, ?_⟩
  rcases @build_unplaced shopDocument shopFile shopItems {} alike with
    same | ⟨problem, _, failed, -⟩
  · exact same
  · cases built.symm.trans failed

end Interface

end NativeBoundary
