import TableGateway.Resolver.Program
import TableGateway.Schema.Model
import TableGateway.Text.Quoted

/-!
# The registry of resolvers

Handlers are kept by the type that owns a field, then by the field, both in
the order of their first registration. The latest handler of a key counts. A
resolver map is what the registry held when the map was taken; it does not
change afterwards.
-/

namespace TableGateway

/-! ## Tables of handlers -/

/-- Handlers by owner, then by field. -/
abbrev HandlerTable := OrderedMap (OrderedMap Handler)

namespace HandlerTable

def handler? (table : HandlerTable) (key : ResolverKey) : Option Handler :=
  (table.get? key.owner).bind (·.get? key.field)

def hasKey (table : HandlerTable) (key : ResolverKey) : Bool :=
  (handler? table key).isSome

def put (table : HandlerTable) (key : ResolverKey) (handler : Handler) :
    HandlerTable :=
  table.insert key.owner
    ((table.getD key.owner .empty).insert key.field handler)

/-- The keys, grouped by owner. -/
def allKeys (table : HandlerTable) : List ResolverKey :=
  table.entries.flatMap fun (owner, fields) =>
    fields.keys.map fun field => ⟨owner, field⟩

/-- The number of keys. -/
def count (table : HandlerTable) : Nat :=
  (allKeys table).length

theorem handler?_put (table : HandlerTable) (key other : ResolverKey)
    (handler : Handler) :
    handler? (put table key handler) other =
      if other = key then some handler else handler? table other := by
  obtain ⟨owner, field⟩ := key
  obtain ⟨otherOwner, otherField⟩ := other
  unfold handler? put
  rw [OrderedMap.get?_insert]
  by_cases sameOwner : otherOwner = owner
  · subst sameOwner
    simp only [if_pos, Option.bind_some, OrderedMap.get?_insert,
      ResolverKey.mk.injEq, true_and]
    by_cases sameField : otherField = field
    · simp [sameField]
    · simp only [if_neg sameField]
      unfold OrderedMap.getD
      cases table.get? otherOwner with
      | none => rfl
      | some fields => rfl
  · simp [sameOwner]

/-- A key is listed exactly when it has a handler. -/
theorem mem_allKeys_iff (table : HandlerTable) (key : ResolverKey) :
    key ∈ allKeys table ↔ hasKey table key = true := by
  obtain ⟨owner, field⟩ := key
  unfold allKeys hasKey handler?
  rw [List.mem_flatMap]
  constructor
  · rintro ⟨⟨storedOwner, fields⟩, entryMember, keyMember⟩
    rw [List.mem_map] at keyMember
    obtain ⟨storedField, fieldMember, equality⟩ := keyMember
    obtain ⟨rfl, rfl⟩ := ResolverKey.mk.inj equality
    rw [table.get?_of_mem_entries entryMember, Option.bind_some]
    exact (fields.contains_iff_mem_keys storedField).mpr fieldMember
  · intro present
    cases found : table.get? owner with
    | none => simp [found] at present
    | some fields =>
        rw [found, Option.bind_some] at present
        refine ⟨(owner, fields), table.mem_entries_of_get? found, ?_⟩
        exact List.mem_map.mpr
          ⟨field, (fields.contains_iff_mem_keys field).mp present, rfl⟩

end HandlerTable

/-! ## Resolver maps -/

/-- Handlers that can be called, but no longer changed. -/
structure ResolverMap where
  handlers : HandlerTable
  defaultLimit : Option Nat

namespace ResolverMap

def handler? (map : ResolverMap) (key : ResolverKey) : Option Handler :=
  HandlerTable.handler? map.handlers key

/-- Whether a key has a handler. -/
def contains (map : ResolverMap) (key : ResolverKey) : Bool :=
  (map.handler? key).isSome

/-- The owners of fields in the order of their registration. -/
def owners (map : ResolverMap) : List String :=
  map.handlers.keys

/-- The fields of an owner in the order of their registration. -/
def fields (map : ResolverMap) (owner : String) : List String :=
  (map.handlers.getD owner .empty).keys

/-- The keys, grouped by owner. -/
def keys (map : ResolverMap) : List ResolverKey :=
  HandlerTable.allKeys map.handlers

/-- The number of keys. -/
def size (map : ResolverMap) : Nat :=
  HandlerTable.count map.handlers

/-- Whether there is no key. -/
def isEmpty (map : ResolverMap) : Bool :=
  map.size == 0

def invocation (map : ResolverMap) (call : FieldCall) : Invocation :=
  ⟨call, map.keys, map.defaultLimit⟩

/-- The error of the first key that is no field of a model. -/
def validateAgainst (map : ResolverMap) (model : SchemaModel) :
    Except ResolverError Unit :=
  match map.keys.find? fun key => !model.hasField key.owner key.field with
  | some key => .error (.unknownField key)
  | none => .ok ()

/-- A map as a text for people: its keys. -/
def debugText (map : ResolverMap) : String :=
  let keyText (key : ResolverKey) : List Char :=
    ("ResolverKey \x7b namespace: " ++ quoted key.owner ++
      ", field: " ++ quoted key.field ++ " \x7d").toList
  "ResolverMap \x7b keys: [" ++
    String.ofList ([',', ' '].intercalate (map.keys.map keyText)) ++
      "] \x7d"

end ResolverMap

/-! ## The registry -/

/-- Handlers that can still be added to and replaced. -/
structure Registry where
  handlers : HandlerTable
  defaultLimit : Option Nat

namespace Registry

/-- The registry without handlers. -/
def empty (defaultLimit : Option Nat) : Registry :=
  ⟨.empty, defaultLimit⟩

/-- Whether a key has a handler. -/
def contains (registry : Registry) (key : ResolverKey) : Bool :=
  HandlerTable.hasKey registry.handlers key

/-- The keys, grouped by owner. -/
def keys (registry : Registry) : List ResolverKey :=
  HandlerTable.allKeys registry.handlers

/-- The number of keys. -/
def size (registry : Registry) : Nat :=
  HandlerTable.count registry.handlers

/-- Whether there is no key. -/
def isEmpty (registry : Registry) : Bool :=
  registry.size == 0

/-- Give a key a handler, in place of an earlier one. -/
def put (registry : Registry) (key : ResolverKey) (handler : Handler) :
    Registry :=
  { registry with
    handlers := HandlerTable.put registry.handlers key handler }

/-- Give a key a handler and tell whether it replaces an earlier one. -/
def add (registry : Registry) (key : ResolverKey) (handler : Handler) :
    Bool × Registry :=
  (registry.contains key, registry.put key handler)

def tryAdd (registry : Registry) (key : ResolverKey) (handler : Handler) :
    Except ResolverError Registry :=
  if registry.contains key then .error (.duplicateResolver key)
  else .ok (registry.put key handler)

/-- What the registry holds now. -/
def resolvers (registry : Registry) : ResolverMap :=
  ⟨registry.handlers, registry.defaultLimit⟩

end Registry

end TableGateway
