import Mathlib.Data.List.Basic
import ModelSchema.Proofs.TypeSyntax
import ModelSchema.Schema.Basic

set_option autoImplicit false

/-!
# What types mean

A type lists alternatives, in order. Parentheses leave no trace in them, and brackets make arrays.

## Main definitions

* `TypeScript.TypeTree` — an alternative of a type.
* `TypeScript.TypeSyntax.tree` — the alternatives of a syntax tree.
* `FieldSchema.typeTree` — the alternatives that the description of a field asks for.

## Main results

* `FieldSchema.typeTree_of_choices`, `FieldSchema.typeTree_of_kind` — the alternatives of a field
  that is restricted to literals, and of one that is not.
-/

namespace ModelSchema

namespace TypeScript

/-! ## Meanings -/

/-- An alternative of a type. Wherever a type may stand, all of its alternatives are listed. -/
inductive TypeTree where
  | word (word : TypeWord)
  | number (value : Nat)
  | text (text : String)
  | array (item : List TypeTree)
  /-- Each member has a name, and may be optional. -/
  | object (members : List (String × Bool × List TypeTree))

/-- The arrays of arrays of a type, as deep as there are brackets. -/
def arraysOf : Nat → List TypeTree → List TypeTree
  | 0, type => type
  | n + 1, type => [.array (arraysOf n type)]

mutual

/-- The alternatives of a type. -/
def TypeSyntax.tree : TypeSyntax → List TypeTree
  | .one p => p.tree
  | .more p others => p.tree ++ others.tree

/-- The alternatives of a postfix. -/
def PostfixSyntax.tree : PostfixSyntax → List TypeTree
  | .mk primary brackets => arraysOf brackets primary.tree

/-- The alternatives of a primary. -/
def PrimarySyntax.tree : PrimarySyntax → List TypeTree
  | .word word => [.word word]
  | .number value => [.number value]
  | .quoted text => [.text (String.ofList text)]
  | .parens type => type.tree
  | .block members => [.object members.tree]

/-- The members of a block. -/
def BlockSyntax.tree : BlockSyntax → List (String × Bool × List TypeTree)
  | .nil => []
  | .cons name isOptional type others => (String.ofList name, isOptional, type.tree) :: others.tree

end

/-- A literal as an alternative. -/
def literalTree : Literal → TypeTree
  | .null => .word .null
  | .bool true => .word .true
  | .bool false => .word .false
  | .number n => .number n.toNat
  | .string s => .text s

end TypeScript

open TypeScript

mutual

/-- The alternatives of a field: the literals that it is restricted to, if there are any, and
otherwise the type of its kind; and null as the last one, if it may be null. -/
def FieldSchema.typeTree : FieldSchema → List TypeTree
  | { kind, choices, item, fields, nullable, .. } =>
    (match choices with
      | some (value :: values) => (value :: values).map literalTree
      | _ =>
        match kind with
        | .string | .email | .uuid | .date => [.word .string]
        | .number => [.word .number]
        | .boolean => [.word .boolean]
        | .array => [.array (itemTree item)]
        | .object => [fieldsTree fields]) ++
      if nullable then [.word .null] else []

/-- The alternatives of the elements of an array; without a description, any type. -/
def itemTree : Option FieldSchema → List TypeTree
  | none => [.word .any]
  | some item => item.typeTree

/-- The type of an object; without a description, any object. -/
def fieldsTree : Option (List (String × FieldSchema)) → TypeTree
  | none => .word .object
  | some fields => .object (membersTree fields)

/-- The members of an object, in order. Those that are not required are optional. -/
def membersTree : List (String × FieldSchema) → List (String × Bool × List TypeTree)
  | [] => []
  | (name, field) :: fields => (name, !field.required, field.typeTree) :: membersTree fields

end

/-- The members are those of the fields, one for each. -/
lemma membersTree_eq_map (fields : List (String × FieldSchema)) :
    membersTree fields =
      fields.map fun field => (field.1, !field.2.required, field.2.typeTree) := by
  induction fields with
  | nil => rfl
  | cons field fields ih =>
    rw [membersTree, List.map_cons, ih]

namespace FieldSchema

/-- Null as the last alternative of a field that may be null. -/
def nullTree (field : FieldSchema) : List TypeTree :=
  if field.nullable then [.word .null] else []

/-- The type of the kind of a field. -/
def kindTree (field : FieldSchema) : TypeTree :=
  match field.kind with
  | .string | .email | .uuid | .date => .word .string
  | .number => .word .number
  | .boolean => .word .boolean
  | .array => .array (itemTree field.item)
  | .object => fieldsTree field.fields

variable {field : FieldSchema}

/-- A field is restricted to literals, or it is free. -/
lemma restricted_or_free (field : FieldSchema) :
    (∃ values, field.choices = some values ∧ values ≠ []) ∨ field.isEnum = false := by
  unfold isEnum
  match h : field.choices with
  | none => exact .inr rfl
  | some [] => exact .inr rfl
  | some (value :: values) => exact .inl ⟨_, rfl, by simp⟩

/-- The type of a restricted field has its literals, and null if it may be null. -/
lemma typeTree_of_choices {values : List Literal} (h : field.choices = some values)
    (hne : values ≠ []) : field.typeTree = values.map literalTree ++ field.nullTree := by
  obtain ⟨value, values, rfl⟩ := List.exists_cons_of_ne_nil hne
  cases field
  cases h
  rfl

/-- The type of any other field has that of its kind, and null if it may be null. -/
lemma typeTree_of_kind (h : field.isEnum = false) :
    field.typeTree = field.kindTree :: field.nullTree := by
  obtain ⟨kind, _, _, _, choices, _, _, _, _, _, _⟩ := field
  match choices with
  | none => cases kind <;> rfl
  | some [] => cases kind <;> rfl
  | some (_ :: _) => cases h

end FieldSchema

end ModelSchema
