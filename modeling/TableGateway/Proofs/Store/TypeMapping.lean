import TableGateway.Proofs.Text.SmallForms
import TableGateway.Store.Basic

/-!
# Registered native types

A store looks the type of a column up under its base type: in lower case, without
what stands in parentheses and without white space around it. A mapping is
registered under its text in lower case alone. So a mapping that is registered
under a text with parentheses, or with white space around it, is never found
(`Store.takesEffect_withTypeMapping_iff`).
-/

namespace TableGateway

/-- A native type that is written as a base type, in capital or small letters. -/
structure IsBaseType (native : String) : Prop where
  parenthesis_not_mem : '(' ∉ native.toList
  trim_eq : trim native.toList = native.toList

instance (native : String) : Decidable (IsBaseType native) :=
  decidable_of_iff
    ('(' ∉ native.toList ∧ trim native.toList = native.toList)
    ⟨fun both => ⟨both.1, both.2⟩,
      fun isBase => ⟨isBase.parenthesis_not_mem, isBase.trim_eq⟩⟩

namespace Store

/-! ## Base types -/

theorem baseType_toLower (native : String) :
    baseType native.toLower = baseType native := by
  rw [baseType, lowercased_toLower, baseType]

/-- The part of a text that a base type is made of. -/
def beforeParenthesis (text : List Char) : List Char :=
  trim (text.takeWhile (· != '('))

theorem parenthesis_not_mem_beforeParenthesis (text : List Char) :
    '(' ∉ beforeParenthesis text := by
  intro member
  have kept := List.mem_takeWhile_imp (mem_of_mem_trim member)
  simp at kept

theorem beforeParenthesis_eq_self_iff {text : List Char} :
    beforeParenthesis text = text ↔ '(' ∉ text ∧ trim text = text := by
  constructor
  · intro same
    have absent : '(' ∉ text := by
      rw [← same]
      exact parenthesis_not_mem_beforeParenthesis text
    refine ⟨absent, ?_⟩
    rw [← same, beforeParenthesis, trim_trim]
  · intro both
    have whole : text.takeWhile (· != '(') = text := by
      rw [List.takeWhile_eq_self_iff]
      intro letter member
      exact bne_iff_ne.mpr fun same => both.1 (same ▸ member)
    rw [beforeParenthesis, whole, both.2]

theorem baseType_eq (native : String) :
    baseType native =
      String.ofList (beforeParenthesis (lowercase native.toList)) := by
  rw [baseType, lowercased, String.toList_ofList, beforeParenthesis]

/-- What a native type is registered under is its base type exactly when it is
written as one. -/
theorem baseType_eq_lowercased_iff (native : String) :
    baseType native = lowercased native ↔ IsBaseType native := by
  rw [baseType_eq, lowercased, String.ofList_inj,
    beforeParenthesis_eq_self_iff, parenthesis_mem_lowercase,
    trim_lowercase_eq_iff]
  exact ⟨fun both => ⟨both.1, both.2⟩,
    fun isBase => ⟨isBase.parenthesis_not_mem, isBase.trim_eq⟩⟩

/-- What a native type is registered under is no base type but its own. -/
theorem baseType_ne_lowercased {native other : String}
    (different : baseType other ≠ baseType native) :
    baseType other ≠ lowercased native := by
  intro same
  have isBase : beforeParenthesis (lowercase native.toList) =
      lowercase native.toList := by
    have lettersEq := congrArg String.toList same
    rw [baseType_eq, lowercased, String.toList_ofList,
      String.toList_ofList] at lettersEq
    rw [← lettersEq, beforeParenthesis_eq_self_iff]
    exact ⟨parenthesis_not_mem_beforeParenthesis _, trim_trim _⟩
  apply different
  rw [same, baseType_eq, isBase, lowercased]

/-! ## Columns of a registered type -/

/-- Columns of a native type are of a scalar type, in whatever letters their type
is written. -/
def MapsColumns (store : Store) (native scalar : String) : Prop :=
  ∀ column : Column, column.nativeType.toLower = native.toLower →
    store.catalog.mapColumnType column = .ok scalar

/-- Columns of other base types are what they were. -/
def KeepsOthers (native : String) (before after : Store) : Prop :=
  ∀ column : Column, baseType column.nativeType ≠ baseType native →
    after.catalog.mapColumnType column = before.catalog.mapColumnType column

theorem mapColumnType_eq_ok_iff {store : Store} {column : Column}
    {scalar : String} :
    store.catalog.mapColumnType column = .ok scalar ↔
      store.scalars.get? (baseType column.nativeType) = some scalar := by
  change store.scalarOf column = .ok scalar ↔ _
  unfold scalarOf
  cases store.scalars.get? (baseType column.nativeType) with
  | none => simp
  | some found => simp

theorem mapColumnType_congr {store other : Store} {column : Column}
    (same : store.scalars.get? (baseType column.nativeType) =
      other.scalars.get? (baseType column.nativeType)) :
    store.catalog.mapColumnType column =
      other.catalog.mapColumnType column := by
  change store.scalarOf column = other.scalarOf column
  unfold scalarOf
  rw [same]

theorem mapsColumns_iff (store : Store) (native scalar : String) :
    store.MapsColumns native scalar ↔
      store.scalars.get? (baseType native) = some scalar := by
  constructor
  · intro maps
    have mapped := maps ⟨"", native, none⟩ rfl
    rwa [mapColumnType_eq_ok_iff] at mapped
  · intro found column alike
    rw [mapColumnType_eq_ok_iff, ← baseType_toLower, alike,
      baseType_toLower, found]

variable (store : Store) (native scalar : String)

theorem get?_withTypeMapping (base : String) :
    (store.withTypeMapping native scalar).scalars.get? base =
      if base = lowercased native then some scalar
      else store.scalars.get? base :=
  OrderedMap.get?_insert _ _ _ _

theorem keepsOthers_withTypeMapping :
    KeepsOthers native store (store.withTypeMapping native scalar) := by
  intro column different
  apply mapColumnType_congr
  rw [get?_withTypeMapping, if_neg (baseType_ne_lowercased different)]

/-- A registered mapping takes effect on the columns of its native type exactly
when that is written as a base type, or its base type had the same mapping. It
never has an effect on columns of another base type. -/
theorem takesEffect_withTypeMapping_iff :
    ((store.withTypeMapping native scalar).MapsColumns native scalar ↔
      IsBaseType native ∨
        store.scalars.get? (baseType native) = some scalar) ∧
    KeepsOthers native store (store.withTypeMapping native scalar) := by
  refine ⟨?_, keepsOthers_withTypeMapping store native scalar⟩
  rw [mapsColumns_iff, get?_withTypeMapping, ← baseType_eq_lowercased_iff]
  by_cases isBase : baseType native = lowercased native
  · simp [isBase]
  · simp [isBase]

/-- A decimal type with its precision is registered in vain, a plain name in
capital letters is not. -/
theorem not_takesEffect_numeric :
    ¬(empty.withTypeMapping "numeric(10,2)" "Decimal").MapsColumns
        "numeric(10,2)" "Decimal" ∧
      (empty.withTypeMapping "JSONB" "String").MapsColumns
        "JSONB" "String" := by
  have numeric := takesEffect_withTypeMapping_iff empty "numeric(10,2)"
    "Decimal"
  have json := takesEffect_withTypeMapping_iff empty "JSONB" "String"
  rw [numeric.1, json.1]
  decide +kernel

end Store

end TableGateway
