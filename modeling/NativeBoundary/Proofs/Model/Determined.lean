import NativeBoundary.Proofs.Attribute.Checked
import NativeBoundary.Proofs.Json.Determined
import NativeBoundary.Proofs.Model.Declared

/-!
# Declarations are determined by their canonical texts

The record form of a declaration leaves out what is derived from it and nothing else, at any depth.
Where two record forms have one canonical text, the declarations are the same field by field.
-/

namespace NativeBoundary

open Json (Agree Determines)

theorem TyKind.name_injective : Function.Injective TyKind.name := by
  intro first second same
  have names := congrArg TyKind.ofName? same
  rw [TyKind.ofName?_name, TyKind.ofName?_name] at names
  exact Option.some.inj names

theorem Json.Agree.text?_eq {first second : Option String}
    (agree : Agree (Json.option .string first) (Json.option .string second)) : first = second :=
  agree.option_eq Json.determines_string fun _ => by simp [Json.form]

namespace Ty

mutual

theorem eq_of_agree : (first second : Ty) → Agree first.toJson second.toJson → first = second
  | ⟨kind, name, args, source⟩, ⟨kind', name', args', source'⟩, agree => by
      have parts := agree.object ["kind", "name", "args", "source"] (by decide) rfl rfl
      simp only [List.map_cons, List.map_nil, List.forall₂_cons] at parts
      obtain ⟨sameKind, sameName, sameArgs, sameSource, -⟩ := parts
      rw [TyKind.name_injective sameKind.string_eq, sameName.text?_eq, sameSource.text?_eq,
        list_eq_of_agree args args' sameArgs.array]

theorem list_eq_of_agree : (first second : List Ty) →
    List.Forall₂ Agree (toJsonList first) (toJsonList second) → first = second
  | [], [], _ => rfl
  | [], _ :: _, agree => nomatch agree
  | _ :: _, [], agree => nomatch agree
  | type :: rest, other :: others, .cons same remaining => by
      rw [eq_of_agree type other same, list_eq_of_agree rest others remaining]

end

theorem determined : Determines Ty.toJson id := eq_of_agree

theorem option_eq_of_agree {first second : Option Ty}
    (agree : Agree (Json.option toJson first) (Json.option toJson second)) : first = second :=
  agree.option_eq determined fun type => by
    cases type
    exact Json.Form.noConfusion

end Ty

/-! ## Literals and attributes -/

theorem LiteralKind.name_injective : Function.Injective LiteralKind.name := by
  have known (kind : LiteralKind) : ofName? kind.name = some kind := by
    cases kind <;> rfl
  intro first second same
  have names := congrArg ofName? same
  rw [known, known] at names
  exact Option.some.inj names

theorem LiteralValue.determined : Determines LiteralValue.toJson id := by
  intro first second agree
  have forms := agree.form_eq
  cases first with
  | nothing =>
      cases second with
      | nothing => rfl
      | flag value => cases value <;> cases forms
      | _ => cases forms
  | flag value =>
      cases second with
      | flag other => exact congrArg flag agree.bool_eq
      | _ => cases value <;> cases forms
  | integer value =>
      cases second with
      | integer other => exact congrArg integer agree.integer_eq
      | flag other => cases other <;> cases forms
      | _ => cases forms
  | text value =>
      cases second with
      | text other => exact congrArg text agree.string_eq
      | flag other => cases other <;> cases forms
      | _ => cases forms

theorem Radix.determined : Determines (fun radix : Radix => Json.integer radix.base) id := by
  intro first second agree
  have bases : (first.base : Int) = second.base := agree.integer_eq
  cases first <;> cases second <;> first | rfl | cases bases

theorem Literal.determined : Determines Literal.toJson id := by
  rintro ⟨kind, value, radix, type⟩ ⟨kind', value', radix', type'⟩ agree
  have parts := agree.object ["kind", "value", "radix", "type"] (by decide) rfl rfl
  simp only [List.map_cons, List.map_nil, List.forall₂_cons] at parts
  obtain ⟨sameKind, sameValue, sameRadix, sameType, -⟩ := parts
  obtain rfl := LiteralKind.name_injective sameKind.string_eq
  obtain rfl : value = value' := LiteralValue.determined _ _ sameValue
  obtain rfl := sameRadix.option_eq Radix.determined fun _ => Json.Form.noConfusion
  obtain rfl := Ty.option_eq_of_agree sameType
  rfl

namespace Attribute

theorem determined : Determines Attribute.toJson id := by
  rintro ⟨kind, value⟩ ⟨kind', value'⟩ agree
  have parts := agree.object ["kind", "value"] (by decide) rfl rfl
  simp only [List.map_cons, List.map_nil, List.forall₂_cons] at parts
  obtain ⟨sameKind, sameValue, -⟩ := parts
  obtain rfl := AttributeKind.key_injective sameKind.string_eq
  obtain rfl := sameValue.text?_eq
  rfl

theorem set_eq_of_agree {first second : List Attribute}
    (agree : Agree (setToJson first) (setToJson second)) : first = second := by
  have parts := agree.object ["attributes"] (by decide) rfl rfl
  simp only [List.map_cons, List.map_nil, List.forall₂_cons] at parts
  exact parts.1.list_eq determined

end Attribute

/-! ## Declarations -/

namespace Model

theorem default_eq_of_agree {first second : Option Literal}
    (agree : Agree (defaultJson first) (defaultJson second)) : first = second :=
  agree.option_eq Literal.determined fun _ => Json.Form.noConfusion

theorem Field.determined : Determines Field.toJson id := by
  rintro ⟨name, type, required, default⟩ ⟨name', type', required', default'⟩ agree
  have parts := agree.object ["name", "type", "required", "default"] (by decide) rfl rfl
  simp only [List.map_cons, List.map_nil, List.forall₂_cons] at parts
  obtain ⟨sameName, sameType, sameRequired, sameDefault, -⟩ := parts
  obtain rfl := sameName.string_eq
  obtain rfl : type = type' := Ty.determined _ _ sameType
  obtain rfl := sameRequired.bool_eq
  obtain rfl := default_eq_of_agree sameDefault
  rfl

theorem Variant.determined : Determines Variant.toJson id := by
  rintro ⟨name, fields⟩ ⟨name', fields'⟩ agree
  obtain ⟨rfl, rfl⟩ : name = name' ∧ fields = fields' :=
    agree.named_list_eq Field.determined (by decide)
  rfl

theorem Argument.determined : Determines Argument.toJson id := by
  rintro ⟨name, type, byRef, optional, default⟩ ⟨name', type', byRef', optional', default'⟩ agree
  have parts := agree.object ["name", "type", "by_ref", "optional", "default"] (by decide) rfl rfl
  simp only [List.map_cons, List.map_nil, List.forall₂_cons] at parts
  obtain ⟨sameName, sameType, sameByRef, sameOptional, sameDefault, -⟩ := parts
  obtain rfl := sameName.string_eq
  obtain rfl : type = type' := Ty.determined _ _ sameType
  obtain rfl := sameByRef.bool_eq
  obtain rfl := sameOptional.bool_eq
  obtain rfl := default_eq_of_agree sameDefault
  rfl

theorem Record.determined : Determines Record.toJson id := by
  rintro ⟨name, fields⟩ ⟨name', fields'⟩ agree
  obtain ⟨rfl, rfl⟩ : name = name' ∧ fields = fields' :=
    agree.named_list_eq Field.determined (by decide)
  rfl

theorem Union.determined : Determines Union.toJson id := by
  rintro ⟨name, variants⟩ ⟨name', variants'⟩ agree
  obtain ⟨rfl, rfl⟩ : name = name' ∧ variants = variants' :=
    agree.named_list_eq Variant.determined (by decide)
  rfl

theorem Function.determined : Determines Function.toJson declared := by
  rintro ⟨name, arguments, result, attributes, _⟩ ⟨name', arguments', result', attributes', _⟩ agree
  have parts := agree.object ["name", "arguments", "return_type", "attributes"] (by decide) rfl rfl
  simp only [List.map_cons, List.map_nil, List.forall₂_cons] at parts
  obtain ⟨sameName, sameArguments, sameResult, sameAttributes, -⟩ := parts
  obtain rfl := sameName.string_eq
  obtain rfl := sameArguments.list_eq Argument.determined
  obtain rfl := Ty.option_eq_of_agree sameResult
  obtain rfl := Attribute.set_eq_of_agree sameAttributes
  rfl

theorem Constructor.determined : Determines Constructor.toJson declared := by
  rintro ⟨name, arguments, attributes, _⟩ ⟨name', arguments', attributes', _⟩ agree
  have parts := agree.object ["name", "arguments", "attributes"] (by decide) rfl rfl
  simp only [List.map_cons, List.map_nil, List.forall₂_cons] at parts
  obtain ⟨sameName, sameArguments, sameAttributes, -⟩ := parts
  obtain rfl := sameName.string_eq
  obtain rfl := sameArguments.list_eq Argument.determined
  obtain rfl := Attribute.set_eq_of_agree sameAttributes
  rfl

theorem Method.determined : Determines Method.toJson declared := by
  rintro ⟨name, owner, arguments, result, attributes, _⟩
    ⟨name', owner', arguments', result', attributes', _⟩ agree
  have parts := agree.object ["name", "object_name", "arguments", "return_type", "attributes"]
    (by decide) rfl rfl
  simp only [List.map_cons, List.map_nil, List.forall₂_cons] at parts
  obtain ⟨sameName, sameOwner, sameArguments, sameResult, sameAttributes, -⟩ := parts
  obtain rfl := sameName.string_eq
  obtain rfl := sameOwner.string_eq
  obtain rfl := sameArguments.list_eq Argument.determined
  obtain rfl := Ty.option_eq_of_agree sameResult
  obtain rfl := Attribute.set_eq_of_agree sameAttributes
  rfl

theorem Object.determined : Determines Object.toJson declared := by
  rintro ⟨name, constructors, methods, threadsafe, _⟩
    ⟨name', constructors', methods', threadsafe', _⟩ agree
  have parts := agree.object
    ["name", "constructors", "methods", "uses_deprecated_threadsafe_attribute"] (by decide) rfl rfl
  simp only [List.map_cons, List.map_nil, List.forall₂_cons] at parts
  obtain ⟨sameName, sameConstructors, sameMethods, sameThreadsafe, -⟩ := parts
  obtain rfl := sameName.string_eq
  obtain rfl := sameThreadsafe.bool_eq
  have viewsConstructors := Constructor.determined.list _ _ sameConstructors
  have viewsMethods := Method.determined.list _ _ sameMethods
  simp only [declared, viewsConstructors, viewsMethods]

theorem CallbackInterface.determined : Determines CallbackInterface.toJson declared := by
  rintro ⟨name, methods, _⟩ ⟨name', methods', _⟩ agree
  obtain ⟨rfl, sameMethods⟩ :
      name = name' ∧ methods.map Method.declared = methods'.map Method.declared :=
    agree.named_list Method.determined (by decide)
  simp only [declared, sameMethods]

/-! ## What is derived is not written -/

theorem Function.toJson_declared (function : Function) :
    function.declared.toJson = function.toJson := rfl

theorem Constructor.toJson_declared (constructor : Constructor) :
    constructor.declared.toJson = constructor.toJson := rfl

theorem Method.toJson_declared (method : Method) : method.declared.toJson = method.toJson := rfl

theorem Object.toJson_declared (object : Object) : object.declared.toJson = object.toJson := by
  simp only [toJson, declared, Json.list, List.map_map, Function.comp_def,
    Constructor.toJson_declared, Method.toJson_declared]

theorem CallbackInterface.toJson_declared (callback : CallbackInterface) :
    callback.declared.toJson = callback.toJson := by
  simp only [toJson, declared, Json.list, List.map_map, Function.comp_def, Method.toJson_declared]

end Model

end NativeBoundary
