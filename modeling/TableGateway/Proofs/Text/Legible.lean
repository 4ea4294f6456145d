import TableGateway.Text.Blank
import TableGateway.Text.Casing

/-!
# Texts that can be read off

A way of writing items is legible if a text that begins with a written item
tells which item it is and where the item ends. Items whose letters differ from
the letter that follows them are legible (`Legible.of_letters`), and so are
lists of legible items, one behind the other (`Legible.flatMap`) or with a
separator between them (`Legible.intercalate`).
-/

namespace TableGateway

universe u

/-- A text that does not go on with a letter of a kind. -/
def Stops (test : Char → Bool) (rest : List Char) : Prop :=
  ∀ letter, rest.head? = some letter → test letter = false

theorem stops_cons {test : Char → Bool} {letter : Char}
    (fails : test letter = false) (rest : List Char) :
    Stops test (letter :: rest) := by
  rintro _ ⟨⟩
  exact fails

/-- What follows a stretch of letters of a kind can be told from it. -/
theorem append_inj_of_stops {test : Char → Bool}
    {left right rest otherRest : List Char}
    (leftPass : ∀ letter ∈ left, test letter = true)
    (rightPass : ∀ letter ∈ right, test letter = true)
    (stops : Stops test rest) (otherStops : Stops test otherRest)
    (same : left ++ rest = right ++ otherRest) :
    left = right ∧ rest = otherRest := by
  have taken {part behind : List Char}
      (pass : ∀ letter ∈ part, test letter = true)
      (stop : Stops test behind) :
      (part ++ behind).takeWhile test = part := by
    have behindNone : behind.takeWhile test = [] := by
      cases behind with
      | nil => rfl
      | cons head tail =>
          exact List.takeWhile_cons_of_neg (by simp [stop head rfl])
    rw [List.takeWhile_append_of_pos pass, behindNone, List.append_nil]
  have leftEq : left = right := by
    rw [← taken leftPass stops, same, taken rightPass otherStops]
  subst leftEq
  exact ⟨rfl, List.append_cancel_left same⟩

/-- A list with a separator is its first item, and then every other item behind
a separator. -/
theorem intercalate_map_cons {item : Type u} (separator : List Char)
    (write : item → List Char) (head : item) (tail : List item) :
    separator.intercalate ((head :: tail).map write) =
      write head ++ tail.flatMap fun element => separator ++ write element := by
  induction tail generalizing head with
  | nil => simp [List.intercalate_singleton]
  | cons next others inductionHypothesis =>
      rw [List.map_cons, List.map_cons, List.intercalate_cons_cons,
        ← List.map_cons, inductionHypothesis, List.flatMap_cons,
        List.append_assoc, List.append_assoc]

/-! ## Legible items -/

/-- Valid items are told apart by the way they are written, whatever text
follows that may stand behind an item, and this text is told from the item. -/
def Legible {item : Type u} (write : item → List Char)
    (valid : item → Prop) (behind : List Char → Prop) : Prop :=
  ∀ ⦃first second : item⦄, valid first → valid second →
    ∀ ⦃rest otherRest : List Char⦄, behind rest → behind otherRest →
      write first ++ rest = write second ++ otherRest →
        first = second ∧ rest = otherRest

namespace Legible

variable {item : Type u} {write : item → List Char} {valid : item → Prop}
  {behind stop : List Char → Prop}

/-- Items that are written in letters of one kind are legible in front of any
other letter. -/
theorem of_letters {test : Char → Bool}
    (pass : ∀ element, valid element →
      ∀ letter ∈ write element, test letter = true)
    (injective : ∀ first second, valid first → valid second →
      write first = write second → first = second) :
    Legible write valid (Stops test) := by
  intro first second firstValid secondValid rest otherRest stops otherStops
    same
  obtain ⟨writtenEq, restEq⟩ :=
    append_inj_of_stops (pass first firstValid) (pass second secondValid)
      stops otherStops same
  exact ⟨injective first second firstValid secondValid writtenEq, restEq⟩

/-- What may stand behind an item stands there if another item does, or the end
of a list. -/
theorem behind_flatMap
    (itemBehind : ∀ element rest, behind (write element ++ rest))
    (stopBehind : ∀ rest, stop rest → behind rest)
    (items : List item) {rest : List Char} (stops : stop rest) :
    behind (items.flatMap write ++ rest) := by
  cases items with
  | nil => exact stopBehind rest stops
  | cons head tail =>
      rw [List.flatMap_cons, List.append_assoc]
      exact itemBehind head _

/-- Lists of legible items are legible if what follows the last item does not
begin like an item. -/
theorem flatMap (legible : Legible write valid behind)
    (itemBehind : ∀ element rest, behind (write element ++ rest))
    (stopBehind : ∀ rest, stop rest → behind rest)
    (apart : ∀ element more rest, valid element → stop rest →
      write element ++ more ≠ rest) :
    Legible (fun items : List item => items.flatMap write)
      (fun items => ∀ element ∈ items, valid element) stop := by
  have listBehind := behind_flatMap itemBehind stopBehind
  intro first
  induction first with
  | nil =>
      intro second _ secondValid rest otherRest stops _ same
      cases second with
      | nil => exact ⟨rfl, same⟩
      | cons head tail =>
          dsimp only at same
          rw [List.flatMap_nil, List.nil_append, List.flatMap_cons,
            List.append_assoc] at same
          have headValid := secondValid head List.mem_cons_self
          exact absurd same.symm (apart head _ rest headValid stops)
  | cons head tail inductionHypothesis =>
      intro second firstValid secondValid rest otherRest stops otherStops same
      obtain ⟨headValid, tailValid⟩ := List.forall_mem_cons.mp firstValid
      dsimp only at same
      cases second with
      | nil =>
          rw [List.flatMap_nil, List.nil_append, List.flatMap_cons,
            List.append_assoc] at same
          exact absurd same (apart head _ otherRest headValid otherStops)
      | cons otherHead otherTail =>
          obtain ⟨otherHeadValid, otherTailValid⟩ :=
            List.forall_mem_cons.mp secondValid
          rw [List.flatMap_cons, List.flatMap_cons, List.append_assoc,
            List.append_assoc] at same
          obtain ⟨rfl, tailSame⟩ :=
            legible headValid otherHeadValid (listBehind tail stops)
              (listBehind otherTail otherStops) same
          obtain ⟨rfl, restEq⟩ :=
            inductionHypothesis tailValid otherTailValid stops otherStops
              tailSame
          exact ⟨rfl, restEq⟩

/-- Items behind a fixed text are legible as the items are. -/
theorem append_left (legible : Legible write valid behind)
    (start : List Char) :
    Legible (fun element => start ++ write element) valid behind := by
  intro first second firstValid secondValid rest otherRest follows
    otherFollows same
  rw [List.append_assoc, List.append_assoc] at same
  exact legible firstValid secondValid follows otherFollows
    (List.append_cancel_left same)

/-- Lists of legible items with a separator between them are legible if what
follows the last item does not begin like the separator. -/
theorem intercalate (legible : Legible write valid behind)
    (separator : List Char)
    (separatorBehind : ∀ rest, behind (separator ++ rest))
    (stopBehind : ∀ rest, stop rest → behind rest)
    (apart : ∀ rest more, stop rest → separator ++ more ≠ rest) :
    Legible (fun items : List item => separator.intercalate (items.map write))
      (fun items => items ≠ [] ∧ ∀ element ∈ items, valid element) stop := by
  have itemBehind (element : item) (rest : List Char) :
      behind (separator ++ write element ++ rest) := by
    rw [List.append_assoc]
    exact separatorBehind _
  have others : Legible
      (fun items : List item =>
        items.flatMap fun element => separator ++ write element)
      (fun items => ∀ element ∈ items, valid element) stop := by
    refine (legible.append_left separator).flatMap itemBehind stopBehind ?_
    intro element more rest _ stops
    rw [List.append_assoc]
    exact apart rest _ stops
  have othersBehind := behind_flatMap itemBehind stopBehind
  intro first second firstValid secondValid rest otherRest stops otherStops
    same
  obtain ⟨head, tail, rfl⟩ := List.exists_cons_of_ne_nil firstValid.1
  obtain ⟨otherHead, otherTail, rfl⟩ :=
    List.exists_cons_of_ne_nil secondValid.1
  obtain ⟨headValid, tailValid⟩ := List.forall_mem_cons.mp firstValid.2
  obtain ⟨otherHeadValid, otherTailValid⟩ :=
    List.forall_mem_cons.mp secondValid.2
  dsimp only at same
  rw [intercalate_map_cons, intercalate_map_cons, List.append_assoc,
    List.append_assoc] at same
  obtain ⟨rfl, tailSame⟩ :=
    legible headValid otherHeadValid (othersBehind tail stops)
      (othersBehind otherTail otherStops) same
  obtain ⟨rfl, restEq⟩ :=
    others tailValid otherTailValid stops otherStops tailSame
  exact ⟨rfl, restEq⟩

end Legible

/-! ## Names -/

/-- A letter, a digit or an underscore. -/
def isNameLetter (letter : Char) : Bool :=
  isAlphanumeric letter || letter == '_'

/-- A text of letters, digits and underscores. -/
def isName (name : String) : Bool :=
  name.toList.all isNameLetter

theorem legible_name :
    Legible String.toList (isName · = true) (Stops isNameLetter) :=
  Legible.of_letters
    (fun _ named => List.all_eq_true.mp named)
    (fun _ _ _ _ same => String.toList_inj.mp same)

/-! ## Texts without white space at their ends -/

/-- A text whose first and last letters are no white space has nothing to
trim. -/
theorem trim_of_unblank_ends {text : List Char}
    (firstUnblank : Stops isBlank text)
    (lastUnblank : Stops isBlank text.reverse) :
    trim text = text := by
  have startKept : trimStart text = text :=
    trimStart_eq_self_iff.mpr firstUnblank
  have endKept : trimStart text.reverse = text.reverse :=
    trimStart_eq_self_iff.mpr lastUnblank
  rw [trim, startKept, trimEnd, endKept, List.reverse_reverse]

end TableGateway
