import TableGateway.Proofs.Naming
import TableGateway.Proofs.Schema.ModelWrites
import TableGateway.Proofs.Text.Legible
import TableGateway.Schema.Sdl

/-!
# The text of a schema tells the schema

Types, parameters, fields, blocks and whole schemas are legible, one after the
other, as long as names are made of letters, digits and underscores. So two
models that are written alike are one model, with all of its definitions in the
same order. The main statement is `SchemaModel.eq_of_sdl_eq`.
-/

namespace TableGateway

/-! ## References -/

/-- A letter of a name, or one that a reference is wrapped in. -/
def isTypeLetter (letter : Char) : Bool :=
  isNameLetter letter || letter == '[' || letter == ']' || letter == '!'

/-- A name does not end in a letter that no name has. -/
theorem lastLetter?_ne_of_isName {name : String} (named : isName name = true)
    {letter : Char} (foreign : isNameLetter letter = false) :
    Naming.lastLetter? name ≠ some letter := by
  intro last
  have isLetter :=
    List.all_eq_true.mp named letter (List.mem_of_getLast? last)
  rw [foreign] at isLetter
  cases isLetter

namespace TypeRef

theorem toList_text_list (inner : TypeRef) :
    (list inner).text.toList = '[' :: (inner.text.toList ++ [']']) := by
  rw [text, String.toList_append, String.toList_append]
  rfl

theorem toList_text_nonNull (inner : TypeRef) :
    (nonNull inner).text.toList = inner.text.toList ++ ['!'] := by
  rw [text, String.toList_append]
  rfl

theorem isTypeLetter_of_mem_text {type : TypeRef}
    (named : isName type.baseName = true) :
    ∀ letter ∈ type.text.toList, isTypeLetter letter = true := by
  induction type with
  | named name =>
      intro letter member
      have isLetter := List.all_eq_true.mp named letter member
      simp [isTypeLetter, isLetter]
  | list inner inductionHypothesis =>
      intro letter member
      rw [toList_text_list, List.mem_cons, List.mem_append,
        List.mem_singleton] at member
      rcases member with rfl | inside | rfl
      · simp [isTypeLetter]
      · exact inductionHypothesis named letter inside
      · simp [isTypeLetter]
  | nonNull inner inductionHypothesis =>
      intro letter member
      rw [toList_text_nonNull, List.mem_append, List.mem_singleton] at member
      rcases member with inside | rfl
      · exact inductionHypothesis named letter inside
      · simp [isTypeLetter]

theorem lastLetter?_text_list (inner : TypeRef) :
    Naming.lastLetter? (list inner).text = some ']' :=
  Naming.lastLetter?_append _ (by decide)

theorem lastLetter?_text_nonNull (inner : TypeRef) :
    Naming.lastLetter? (nonNull inner).text = some '!' :=
  Naming.lastLetter?_append _ (by decide)

theorem name_ne_text_list {name : String} (named : isName name = true)
    (inner : TypeRef) : name ≠ (list inner).text := by
  rintro rfl
  exact lastLetter?_ne_of_isName named (by decide +kernel)
    (lastLetter?_text_list inner)

theorem name_ne_text_nonNull {name : String} (named : isName name = true)
    (inner : TypeRef) : name ≠ (nonNull inner).text := by
  rintro rfl
  exact lastLetter?_ne_of_isName named (by decide +kernel)
    (lastLetter?_text_nonNull inner)

theorem text_list_ne_text_nonNull (inner other : TypeRef) :
    (list inner).text ≠ (nonNull other).text :=
  Naming.ne_of_lastLetter? (lastLetter?_text_list inner)
    (lastLetter?_text_nonNull other) (by decide)

/-- A reference can be read from its end: behind a list there is a bracket,
behind a type without null an exclamation mark, and neither is in a name. -/
theorem eq_of_text_eq {first second : TypeRef}
    (named : isName first.baseName = true)
    (otherNamed : isName second.baseName = true)
    (same : first.text = second.text) : first = second := by
  induction first generalizing second with
  | named name =>
      cases second with
      | named other => exact congrArg TypeRef.named same
      | list inner => exact absurd same (name_ne_text_list named inner)
      | nonNull inner => exact absurd same (name_ne_text_nonNull named inner)
  | list inner inductionHypothesis =>
      cases second with
      | named other =>
          exact absurd same.symm (name_ne_text_list otherNamed inner)
      | list otherInner =>
          rw [← String.toList_inj, toList_text_list, toList_text_list] at same
          have innerSame := List.append_cancel_right (List.cons.inj same).2
          exact congrArg list (inductionHypothesis named otherNamed
            (String.toList_inj.mp innerSame))
      | nonNull otherInner =>
          exact absurd same (text_list_ne_text_nonNull inner otherInner)
  | nonNull inner inductionHypothesis =>
      cases second with
      | named other =>
          exact absurd same.symm (name_ne_text_nonNull otherNamed inner)
      | list otherInner =>
          exact absurd same.symm (text_list_ne_text_nonNull otherInner inner)
      | nonNull otherInner =>
          rw [← String.toList_inj, toList_text_nonNull,
            toList_text_nonNull] at same
          have innerSame := List.append_cancel_right same
          exact congrArg nonNull (inductionHypothesis named otherNamed
            (String.toList_inj.mp innerSame))

theorem legible_text :
    Legible (fun type : TypeRef => type.text.toList)
      (fun type => isName type.baseName = true) (Stops isTypeLetter) :=
  Legible.of_letters (fun _ named => isTypeLetter_of_mem_text named)
    (fun _ _ named otherNamed same =>
      eq_of_text_eq named otherNamed (String.toList_inj.mp same))

end TypeRef

/-! ## Fields -/

namespace Sdl

/-- Names that can be read, of something that has a type and of this type. -/
def IsTyped (entry : String × TypeRef) : Prop :=
  isName entry.1 = true ∧ isName entry.2.baseName = true

instance (entry : String × TypeRef) : Decidable (IsTyped entry) :=
  inferInstanceAs (Decidable (_ ∧ _))

theorem legible_typed :
    Legible (fun entry : String × TypeRef => typed entry.1 entry.2) IsTyped
      (Stops isTypeLetter) := by
  have colon : isNameLetter ':' = false := by decide +kernel
  rintro ⟨name, type⟩ ⟨otherName, otherType⟩ ⟨named, typeNamed⟩
    ⟨otherNamed, otherTypeNamed⟩ rest otherRest stops otherStops same
  simp only [typed, List.append_assoc, List.cons_append] at same
  obtain ⟨rfl, behindName⟩ :=
    legible_name named otherNamed (stops_cons colon _) (stops_cons colon _)
      same
  obtain ⟨rfl, restEq⟩ :=
    TypeRef.legible_text typeNamed otherTypeNamed stops otherStops
      (List.cons.inj (List.cons.inj behindName).2).2
  exact ⟨rfl, restEq⟩

/-- The parameters of a field in parentheses, if there are any. -/
def paramsText (params : OrderedMap TypeRef) : List Char :=
  if params.entries.isEmpty then [] else '(' :: (renderParams params ++ [')'])

theorem fieldLine_eq (field : FieldDefinition) :
    fieldLine field =
      field.name.toList ++ (paramsText field.params ++
        ':' :: ' ' :: field.type.text.toList) := by
  unfold fieldLine paramsText
  by_cases empty : field.params.entries.isEmpty = true
  · rw [if_pos empty, if_pos empty]
    rfl
  · rw [if_neg empty, if_neg empty]
    simp only [List.append_assoc, List.cons_append, List.nil_append]

/-- A list of parameters goes up to the closing parenthesis. -/
theorem legible_renderParams :
    Legible renderParams
      (fun params => params.entries ≠ [] ∧ ∀ entry ∈ params.entries,
        IsTyped entry)
      (fun rest => rest.head? = some ')') := by
  have comma : isTypeLetter ',' = false := by decide +kernel
  have parenthesis : isTypeLetter ')' = false := by decide +kernel
  have entries := legible_typed.intercalate [',', ' ']
    (fun rest => stops_cons comma _)
    (fun (rest : List Char) (starts : rest.head? = some ')') => by
      obtain ⟨tail, rfl⟩ := List.head?_eq_some_iff.mp starts
      exact stops_cons parenthesis tail)
    (fun rest more starts same => by
      rw [← same] at starts
      cases starts)
  intro first second named otherNamed rest otherRest starts otherStarts same
  obtain ⟨entriesEq, restEq⟩ :=
    entries named otherNamed starts otherStarts same
  exact ⟨OrderedMap.ext entriesEq, restEq⟩

theorem legible_paramsText :
    Legible paramsText (fun params => ∀ entry ∈ params.entries, IsTyped entry)
      (fun rest => rest.head? = some ':') := by
  intro first second named otherNamed rest otherRest starts otherStarts same
  unfold paramsText at same
  by_cases none : first.entries.isEmpty = true
  · rw [if_pos none] at same
    by_cases otherNone : second.entries.isEmpty = true
    · rw [if_pos otherNone] at same
      rw [List.isEmpty_iff] at none otherNone
      exact ⟨OrderedMap.ext (none.trans otherNone.symm), same⟩
    · rw [if_neg otherNone] at same
      rw [show rest = _ from same] at starts
      cases starts
  · rw [if_neg none] at same
    by_cases otherNone : second.entries.isEmpty = true
    · rw [if_pos otherNone] at same
      rw [show otherRest = _ from same.symm] at otherStarts
      cases otherStarts
    · rw [if_neg otherNone] at same
      simp only [List.cons_append, List.append_assoc,
        List.nil_append] at same
      rw [List.isEmpty_iff] at none otherNone
      obtain ⟨rfl, restEq⟩ :=
        legible_renderParams ⟨none, named⟩ ⟨otherNone, otherNamed⟩ rfl rfl
          (List.cons.inj same).2
      exact ⟨rfl, (List.cons.inj restEq).2⟩

end Sdl

/-- A field all of whose names can be read. -/
@[mk_iff]
structure FieldDefinition.WellNamed (field : FieldDefinition) : Prop where
  name : isName field.name = true
  type : isName field.type.baseName = true
  params : ∀ entry ∈ field.params.entries, Sdl.IsTyped entry

instance (field : FieldDefinition) : Decidable field.WellNamed :=
  decidable_of_iff' _ field.wellNamed_iff

namespace Sdl

theorem legible_fieldLine :
    Legible fieldLine FieldDefinition.WellNamed (Stops isTypeLetter) := by
  have colon : isNameLetter ':' = false := by decide +kernel
  have parenthesis : isNameLetter '(' = false := by decide +kernel
  have behindName (field : FieldDefinition) (rest : List Char) :
      Stops isNameLetter (paramsText field.params ++
        (':' :: ' ' :: (field.type.text.toList ++ rest))) := by
    unfold paramsText
    by_cases empty : field.params.entries.isEmpty = true
    · rw [if_pos empty]
      exact stops_cons colon _
    · rw [if_neg empty]
      exact stops_cons parenthesis _
  intro first second named otherNamed rest otherRest stops otherStops same
  rw [fieldLine_eq, fieldLine_eq] at same
  simp only [List.append_assoc, List.cons_append] at same
  obtain ⟨nameEq, sameParams⟩ :=
    legible_name named.name otherNamed.name (behindName first rest)
      (behindName second otherRest) same
  obtain ⟨paramsEq, sameType⟩ :=
    legible_paramsText named.params otherNamed.params rfl rfl sameParams
  obtain ⟨typeEq, restEq⟩ :=
    TypeRef.legible_text named.type otherNamed.type stops otherStops
      (List.cons.inj (List.cons.inj sameType).2).2
  cases first
  cases second
  cases nameEq
  cases paramsEq
  cases typeEq
  exact ⟨rfl, restEq⟩

/-- A field as it is stored, under its own name. -/
theorem legible_stored :
    Legible (fun stored : String × FieldDefinition => fieldLine stored.2)
      (fun stored => stored.2.name = stored.1 ∧ stored.2.WellNamed)
      (Stops isTypeLetter) := by
  rintro ⟨name, field⟩ ⟨otherName, otherField⟩ ⟨own, named⟩
    ⟨otherOwn, otherNamed⟩ rest otherRest stops otherStops same
  obtain ⟨fieldEq, restEq⟩ :=
    legible_fieldLine named otherNamed stops otherStops same
  exact ⟨Prod.ext (own.symm.trans (fieldEq ▸ otherOwn)) fieldEq, restEq⟩

/-! ## Blocks -/

/-- A block goes up to the closing brace, as no line begins with one. -/
theorem legible_block {value : Type} (keyword : String)
    {line : String × value → List Char} {valid : String × value → Prop}
    (legible : Legible line valid (Stops isTypeLetter)) :
    Legible
      (fun block : String × OrderedMap value =>
        renderBlock keyword block.1 (block.2.entries.map line))
      (fun block => isName block.1 = true ∧
        ∀ entry ∈ block.2.entries, valid entry)
      (fun _ => True) := by
  have blank : isNameLetter ' ' = false := by decide +kernel
  have lineBreak : isTypeLetter '\n' = false := by decide +kernel
  have lines : Legible
      (fun entries : List (String × value) => entries.flatMap fun entry =>
        [' ', ' '] ++ (line entry ++ ['\n']))
      (fun entries => ∀ entry ∈ entries, valid entry)
      (fun rest => rest.head? = some '\x7d') := by
    have withBreak : Legible (fun entry => line entry ++ ['\n']) valid
        (fun _ => True) := by
      intro first second named otherNamed rest otherRest _ _ same
      rw [List.append_assoc, List.append_assoc] at same
      obtain ⟨rfl, restEq⟩ :=
        legible named otherNamed (stops_cons lineBreak _)
          (stops_cons lineBreak _) same
      exact ⟨rfl, (List.cons.inj restEq).2⟩
    refine (withBreak.append_left [' ', ' ']).flatMap
      (fun _ _ => trivial) (fun _ _ => trivial) ?_
    intro entry more rest _ starts same
    rw [← same] at starts
    cases starts
  have written (name : String) (entries : List (String × value))
      (rest : List Char) :
      renderBlock keyword name (entries.map line) ++ rest =
        (keyword.toList ++ [' ']) ++ (name.toList ++
          ([' ', '\x7b', '\n'] ++ ((entries.flatMap fun entry =>
            [' ', ' '] ++ (line entry ++ ['\n'])) ++ '\x7d' :: rest))) := by
    simp only [renderBlock, List.flatMap_map, List.append_assoc,
      List.cons_append, List.nil_append]
  rintro ⟨name, fields⟩ ⟨otherName, otherFields⟩ ⟨named, entriesValid⟩
    ⟨otherNamed, otherEntriesValid⟩ rest otherRest _ _ same
  dsimp only at same
  rw [written, written] at same
  obtain ⟨nameEq, sameFields⟩ :=
    legible_name named otherNamed (stops_cons blank _) (stops_cons blank _)
      (List.append_cancel_left same)
  have sameLines : [' ', '\x7b', '\n'] ++ _ = [' ', '\x7b', '\n'] ++ _ :=
    sameFields
  obtain ⟨entriesEq, restEq⟩ :=
    lines entriesValid otherEntriesValid rfl rfl
      (List.append_cancel_left sameLines)
  have fieldsEq : fields = otherFields := OrderedMap.ext entriesEq
  cases nameEq
  cases fieldsEq
  exact ⟨rfl, (List.cons.inj restEq).2⟩

/-- A definition of a schema: an object type or an input type, with its
name. -/
abbrev Definition :=
  (String × TypeFields) ⊕ (String × InputFields)

def definitionText : Definition → List Char :=
  Sum.elim (fun block => typeBlock block.1 block.2)
    fun block => inputBlock block.1 block.2

/-- The definitions of a model in the order in which they are written. -/
def definitions (model : SchemaModel) : List Definition :=
  model.types.entries.map Sum.inl ++ model.inputs.entries.map Sum.inr

theorem blocks_eq (model : SchemaModel) :
    blocks model = (definitions model).map definitionText := by
  unfold blocks definitions
  rw [List.map_append, List.map_map, List.map_map]
  rfl

end Sdl

namespace SchemaModel

/-- A model whose fields are stored under their own names, and all names of
which are made of letters, digits and underscores. -/
@[mk_iff]
structure WellNamed (model : SchemaModel) : Prop where
  own : model.FieldsNamed
  types : ∀ owned ∈ model.types.entries, isName owned.1 = true ∧
    ∀ stored ∈ owned.2.entries, stored.2.WellNamed
  inputs : ∀ owned ∈ model.inputs.entries, isName owned.1 = true ∧
    ∀ entry ∈ owned.2.entries, Sdl.IsTyped entry

instance (model : SchemaModel) : Decidable model.WellNamed :=
  decidable_of_iff' _ model.wellNamed_iff

end SchemaModel

namespace Sdl

/-- A definition all of whose names can be read. -/
def Definition.WellNamed : Definition → Prop :=
  Sum.elim
    (fun block => isName block.1 = true ∧ ∀ stored ∈ block.2.entries,
      stored.2.name = stored.1 ∧ stored.2.WellNamed)
    fun block => isName block.1 = true ∧ ∀ entry ∈ block.2.entries,
      IsTyped entry

theorem wellNamed_of_mem_definitions {model : SchemaModel}
    (named : model.WellNamed) :
    ∀ definition ∈ definitions model, definition.WellNamed := by
  intro definition member
  rcases List.mem_append.mp member with isType | isInput
  · obtain ⟨owned, ownedMember, rfl⟩ := List.mem_map.mp isType
    obtain ⟨ownerNamed, fieldsNamed⟩ := named.types owned ownedMember
    exact ⟨ownerNamed, fun stored storedMember =>
      ⟨named.own owned ownedMember stored storedMember,
        fieldsNamed stored storedMember⟩⟩
  · obtain ⟨owned, ownedMember, rfl⟩ := List.mem_map.mp isInput
    exact named.inputs owned ownedMember

/-- A definition goes up to its closing brace, whatever follows, and its
keyword tells its kind. -/
theorem legible_definitionText :
    Legible definitionText Definition.WellNamed (fun _ => True) := by
  have types := legible_block "type" legible_stored
  have inputs := legible_block "input" legible_typed
  have typeText (block : String × TypeFields) :
      definitionText (.inl block) = renderBlock "type" block.1
        (block.2.entries.map fun stored => fieldLine stored.2) :=
    congrArg (renderBlock "type" block.1) List.map_map
  have inputText (block : String × InputFields) :
      definitionText (.inr block) = renderBlock "input" block.1
        (block.2.entries.map fun entry => typed entry.1 entry.2) := rfl
  rintro (block | block) (other | other) named otherNamed rest otherRest _ _
    same
  · rw [typeText, typeText] at same
    obtain ⟨blockEq, restEq⟩ := types named otherNamed trivial trivial same
    exact ⟨congrArg Sum.inl blockEq, restEq⟩
  · rw [typeText, inputText] at same
    exact absurd (List.cons.inj same).1 (by decide)
  · rw [inputText, typeText] at same
    exact absurd (List.cons.inj same).1 (by decide)
  · obtain ⟨blockEq, restEq⟩ := inputs named otherNamed trivial trivial same
    exact ⟨congrArg Sum.inr blockEq, restEq⟩

/-! ## Schemas -/

/-- A text of definitions, with an empty line between them. -/
def definitionsText (items : List Definition) : List Char :=
  ['\n', '\n'].intercalate (items.map definitionText)

/-- The text of definitions begins with the letter of a keyword. -/
theorem exists_definitionsText_eq_cons {items : List Definition}
    (some : items ≠ []) :
    ∃ letter rest, isBlank letter = false ∧
      definitionsText items = letter :: rest := by
  obtain ⟨head, tail, rfl⟩ := List.exists_cons_of_ne_nil some
  unfold definitionsText
  rw [intercalate_map_cons]
  rcases head with block | block
  · exact ⟨'t', _, by decide, rfl⟩
  · exact ⟨'i', _, by decide, rfl⟩

theorem exists_definitionText_eq_append (definition : Definition) :
    ∃ front, definitionText definition = front ++ ['\x7d'] := by
  rcases definition with block | block
  · exact ⟨_, rfl⟩
  · exact ⟨_, rfl⟩

/-- The text of definitions ends with the brace of the last one. -/
theorem exists_definitionsText_eq_append {items : List Definition}
    (some : items ≠ []) :
    ∃ front, definitionsText items = front ++ ['\x7d'] := by
  obtain ⟨head, tail, rfl⟩ := List.exists_cons_of_ne_nil some
  unfold definitionsText
  rw [intercalate_map_cons]
  rcases List.eq_nil_or_concat tail with rfl | ⟨others, last, rfl⟩
  · rw [List.flatMap_nil, List.append_nil]
    exact exists_definitionText_eq_append head
  · obtain ⟨front, lastEq⟩ := exists_definitionText_eq_append last
    rw [List.concat_eq_append, List.flatMap_append, List.flatMap_singleton,
      lastEq, ← List.append_assoc, ← List.append_assoc, ← List.append_assoc]
    exact ⟨_, rfl⟩

/-- There is nothing to trim from the text of definitions. -/
theorem trim_definitionsText (items : List Definition) :
    trim (definitionsText items) = definitionsText items := by
  by_cases none : items = []
  · rw [none]
    rfl
  · apply trim_of_unblank_ends
    · obtain ⟨letter, rest, unblank, textEq⟩ :=
        exists_definitionsText_eq_cons none
      rw [textEq]
      exact stops_cons unblank rest
    · obtain ⟨front, textEq⟩ := exists_definitionsText_eq_append none
      rw [textEq, List.reverse_append]
      exact stops_cons (by decide) _

theorem eq_of_definitionsText_eq {first second : List Definition}
    (named : ∀ definition ∈ first, definition.WellNamed)
    (otherNamed : ∀ definition ∈ second, definition.WellNamed)
    (same : definitionsText first = definitionsText second) :
    first = second := by
  have nonempty {items : List Definition} (some : items ≠ []) :
      definitionsText items ≠ [] := by
    obtain ⟨_, _, _, textEq⟩ := exists_definitionsText_eq_cons some
    rw [textEq]
    exact List.cons_ne_nil _ _
  have legible := legible_definitionText.intercalate ['\n', '\n']
    (fun _ => trivial) (fun _ _ => trivial)
    (fun (rest more : List Char) (stops : rest = []) same => by
      rw [stops] at same
      cases same)
  by_cases none : first = []
  · by_cases otherNone : second = []
    · rw [none, otherNone]
    · rw [none] at same
      exact absurd same.symm (nonempty otherNone)
  · by_cases otherNone : second = []
    · rw [otherNone] at same
      exact absurd same (nonempty none)
    · exact (legible ⟨none, named⟩ ⟨otherNone, otherNamed⟩ rfl rfl
        (congrArg (· ++ []) same)).1

end Sdl

namespace SchemaModel

theorem sdl_eq (model : SchemaModel) :
    model.sdl = String.ofList
      (Sdl.definitionsText (Sdl.definitions model) ++ ['\n']) := by
  rw [← Sdl.trim_definitionsText, Sdl.definitionsText, ← Sdl.blocks_eq]
  rfl

theorem getLeft?_definitions (model : SchemaModel) :
    (Sdl.definitions model).filterMap Sum.getLeft? = model.types.entries := by
  simp [Sdl.definitions, Function.comp_def]

theorem getRight?_definitions (model : SchemaModel) :
    (Sdl.definitions model).filterMap Sum.getRight? =
      model.inputs.entries := by
  simp [Sdl.definitions, Function.comp_def]

theorem eq_of_definitions_eq {first second : SchemaModel}
    (same : Sdl.definitions first = Sdl.definitions second) :
    first = second := by
  apply SchemaModel.ext
  · apply OrderedMap.ext
    rw [← getLeft?_definitions, same, getLeft?_definitions]
  · apply OrderedMap.ext
    rw [← getRight?_definitions, same, getRight?_definitions]

/-- Models that are written alike are the same: the same object types and input
types in the same order, with the same fields in the same order, the same
parameters in the same order and the same references. -/
theorem eq_of_sdl_eq {first second : SchemaModel}
    (named : first.WellNamed) (otherNamed : second.WellNamed)
    (same : first.sdl = second.sdl) : first = second := by
  rw [sdl_eq, sdl_eq, String.ofList_inj] at same
  have sameText := List.append_cancel_right same
  apply eq_of_definitions_eq
  exact Sdl.eq_of_definitionsText_eq
    (Sdl.wellNamed_of_mem_definitions named)
    (Sdl.wellNamed_of_mem_definitions otherNamed) sameText

/-- A schema whose field was written once, and one whose field was written
again. -/
theorem eq_of_sdl_eq_parcel :
    let lines : FieldDefinition :=
      (FieldDefinition.plain "lines"
        (.nonNull (.list (.nonNull (.named "Line"))))).withQueryParams
    let once :=
      (SchemaModel.empty.setField "Parcel" lines).setInputField
        "ParcelInput" "parcel_no" .int
    let twice :=
      ((SchemaModel.empty.setField "Parcel"
        (.plain "lines" .string)).setInputField
          "ParcelInput" "parcel_no" .int).setField "Parcel" lines
    once.WellNamed ∧ twice.WellNamed ∧ once.sdl = twice.sdl ∧
      once = twice := by
  intro lines once twice
  have named : once.WellNamed := by decide +kernel
  have otherNamed : twice.WellNamed := by decide +kernel
  have same : once.sdl = twice.sdl := by decide +kernel
  exact ⟨named, otherNamed, same, eq_of_sdl_eq named otherNamed same⟩

end SchemaModel

end TableGateway
