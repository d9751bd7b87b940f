import NativeBoundary.Proofs.Build.Admission

/-!
# Readings that later names leave alone

What can be read where some names are bound is read the same where more names are bound: a name that
is looked up has its type already, and nothing else of the names enters.  So a document that makes
sense on its own declares the same when other sources bind names behind its own.
-/

namespace NativeBoundary

namespace Names

/-- What is bound first stands for the same among the second names. -/
def Within (names others : Names) : Prop :=
  ∀ ⦃name type⦄, names name = some type → others name = some type

theorem Within.meaning {names others : Names} (within : names.Within others) {name : String}
    {type : Ty} (meant : names.meaning name = some type) : others.meaning name = some type := by
  rcases Option.or_eq_some_iff.mp meant with spelled | ⟨notSpelled, bound⟩
  · exact Option.or_eq_some_iff.mpr (.inl spelled)
  · exact Option.or_eq_some_iff.mpr (.inr ⟨notSpelled, within bound⟩)

end Names

/-- A result that is found under some names is found under more. -/
def Stable {α : Type} (denoted : Names → Except Problem α) : Prop :=
  ∀ ⦃names others value⦄, names.Within others → denoted names = .ok value →
    denoted others = .ok value

namespace Stable

variable {α β : Type}

theorem const (result : Except Problem α) : Stable fun _ => result :=
  fun _ _ _ _ read => read

theorem bind {first : Names → Except Problem α} {next : Names → α → Except Problem β}
    (stableFirst : Stable first) (stableNext : ∀ given, Stable (next · given)) :
    Stable fun names => first names >>= next names := by
  intro names others value within read
  obtain ⟨given, readFirst, readNext⟩ := Results.bind_eq_ok.mp read
  exact Results.bind_eq_ok.mpr
    ⟨given, stableFirst within readFirst, stableNext given within readNext⟩

theorem mapM {read : Names → α → Except Problem β} (stable : ∀ item, Stable (read · item))
    (items : List α) : Stable fun names => items.mapM (read names) := by
  induction items with
  | nil => exact const _
  | cons item rest ih =>
      simp only [List.mapM_cons]
      exact (stable item).bind fun _ => ih.bind fun _ => const _

/-- Nothing changes for a reading that is completed. -/
theorem eq_of_whole {denoted : Names → Except Problem α} (stable : Stable denoted)
    {names others : Names} (within : names.Within others)
    (whole : ∃ value, denoted names = .ok value) : denoted others = denoted names := by
  obtain ⟨value, read⟩ := whole
  rw [read, stable within read]

end Stable

theorem TypeExpr.denoteName_stable (name : String) (location : Option Location) :
    Stable (TypeExpr.denoteName · name location) := by
  intro names others type within read
  change denoteName names name location = .ok type at read
  change denoteName others name location = .ok type
  unfold denoteName at read ⊢
  cases meant : names.meaning name with
  | none =>
      rw [meant] at read
      cases read
  | some found =>
      rw [meant] at read
      rw [within.meaning meant]
      exact read

theorem TypeExpr.denote_stable : ∀ expr : TypeExpr, Stable expr.denote
  | ⟨.sequence, _, some element, _, _, _, _⟩ => (denote_stable element).bind fun _ => Stable.const _
  | ⟨.sequence, _, none, _, _, _, _⟩ => Stable.const _
  | ⟨.map, _, _, some key, some value, _, _⟩ =>
      (denote_stable key).bind fun _ => (denote_stable value).bind fun _ => Stable.const _
  | ⟨.map, _, _, none, _, _, _⟩ => Stable.const _
  | ⟨.map, _, _, some _, none, _, _⟩ => Stable.const _
  | ⟨.identifier, _, _, _, _, _, _⟩ => (denoteName_stable _ _).bind fun _ => Stable.const _
termination_by structural expr => expr

namespace Document

theorem denoteResult_stable : ∀ result : Option TypeExpr, Stable (denoteResult result)
  | none => Stable.const _
  | some expr => expr.denote_stable.bind fun _ => Stable.const _

theorem Argument.denote_stable (argument : Argument) : Stable argument.denote :=
  (Stable.const _).bind fun _ => argument.type.denote_stable.bind fun _ =>
    (Stable.const _).bind fun _ => Stable.const _

theorem Member.denote_stable (member : Member) : Stable member.denote :=
  (Stable.const _).bind fun _ => member.type.denote_stable.bind fun _ =>
    (Stable.const _).bind fun _ => Stable.const _

namespace Operation

theorem denoteFunction_stable (operation : Operation) : Stable operation.denoteFunction :=
  (Stable.const _).bind fun _ => (Stable.mapM Argument.denote_stable _).bind fun _ =>
    (denoteResult_stable _).bind fun _ => Stable.const _

theorem denoteMethod_stable (owner : String) (operation : Operation) :
    Stable (operation.denoteMethod owner) :=
  (Stable.const _).bind fun _ => (Stable.mapM Argument.denote_stable _).bind fun _ =>
    (denoteResult_stable _).bind fun _ => Stable.const _

theorem denoteVariantField_stable (argument : Argument) : Stable (denoteVariantField argument) :=
  argument.type.denote_stable.bind fun _ => Stable.const _

theorem denoteVariant_stable (owner : String) (operation : Operation) :
    Stable (operation.denoteVariant owner) := by
  unfold denoteVariant
  split
  · exact Stable.const _
  · exact (Stable.const _).bind fun _ =>
      (Stable.mapM denoteVariantField_stable _).bind fun _ => Stable.const _

end Operation

theorem Constructor.denote_stable (constructor : Constructor) : Stable constructor.denote :=
  (Stable.const _).bind fun _ => (Stable.mapM Argument.denote_stable _).bind fun _ => Stable.const _

namespace Declaration

variable (declaration : Declaration)

theorem denoteRecord_stable (members : List Member) : Stable (declaration.denoteRecord members) :=
  (Stable.const _).bind fun _ => (Stable.const _).bind fun _ =>
    (Stable.mapM Member.denote_stable _).bind fun _ => Stable.const _

theorem denoteVariants_stable (constructors : List Constructor) (operations : List Operation) :
    Stable (declaration.denoteVariants constructors operations) := by
  cases constructors with
  | nil =>
      exact (Stable.const _).bind fun _ =>
        Stable.mapM (Operation.denoteVariant_stable declaration.name) _
  | cons first rest => exact Stable.const _

theorem denoteUnion_stable (constructors : List Constructor) (operations : List Operation) :
    Stable (declaration.denoteUnion constructors operations) :=
  (Stable.const _).bind fun _ =>
    (declaration.denoteVariants_stable constructors operations).bind fun _ => Stable.const _

theorem denotePlain_stable (constructors : List Constructor) (operations : List Operation) :
    Stable (declaration.denotePlain constructors operations) :=
  (Stable.const _).bind fun _ => (Stable.mapM Constructor.denote_stable _).bind fun _ =>
    (Stable.const _).bind fun _ => (Stable.const _).bind fun _ => (Stable.const _).bind fun _ =>
      (Stable.mapM (Operation.denoteMethod_stable declaration.name) _).bind fun _ => Stable.const _

theorem denoteCallback_stable (operations : List Operation) :
    Stable (declaration.denoteCallback operations) :=
  (Stable.const _).bind fun _ => (Stable.const _).bind fun _ =>
    (Stable.mapM (Operation.denoteMethod_stable declaration.name) _).bind fun _ => Stable.const _

/-- A declaration that can be read under some names declares the same under more. -/
theorem contents_eq_of_within {names others : Names} (within : names.Within others)
    (whole : (declaration.contents names).Whole) :
    declaration.contents others = declaration.contents names := by
  unfold contents at whole ⊢
  cases shape : declaration.body with
  | space functions =>
      simp only [shape] at whole
      have same : functions.map (Operation.denoteFunction · others) =
          functions.map (Operation.denoteFunction · names) :=
        List.map_congr_left fun function member =>
          function.denoteFunction_stable.eq_of_whole within
            (whole.functions _ (List.mem_map_of_mem member))
      simp only [same]
  | dictionary members =>
      simp only [shape] at whole
      simp only [(declaration.denoteRecord_stable members).eq_of_whole within
        (whole.records _ (List.mem_singleton_self _))]
  | enum values => rfl
  | interface constructors operations =>
      simp only [shape] at whole
      have union := declaration.denoteUnion_stable constructors operations
      have plain := declaration.denotePlain_stable constructors operations
      cases isEnum : declaration.marked .enum with
      | true =>
          simp only [isEnum, if_true] at whole ⊢
          rw [union.eq_of_whole within (whole.enums _ (List.mem_singleton_self _))]
      | false =>
          cases isError : declaration.marked .error with
          | true =>
              simp only [isEnum, isError, Bool.false_eq_true, if_false, if_true] at whole ⊢
              rw [union.eq_of_whole within (whole.errors _ (List.mem_singleton_self _))]
          | false =>
              simp only [isEnum, isError, Bool.false_eq_true, if_false] at whole ⊢
              rw [plain.eq_of_whole within (whole.objects _ (List.mem_singleton_self _))]
  | callbackInterface operations =>
      simp only [shape] at whole
      simp only [(declaration.denoteCallback_stable operations).eq_of_whole within
        (whole.callbacks _ (List.mem_singleton_self _))]
  | typedef typeName => rfl

end Declaration

end Document

end NativeBoundary
