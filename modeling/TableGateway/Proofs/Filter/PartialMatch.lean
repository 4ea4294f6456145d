import TableGateway.Filter.Clause
import TableGateway.Proofs.Text.Lowercase

/-!
# Partial matches

The operator `~` puts the text that it looks for and the text of a value into
lower case by themselves. A sigma that ends the former is a final one there, but
perhaps not in the latter. The main statement is `FilterClause.findsWithin_iff`,
which tells the texts that are found wherever they stand.
-/

namespace TableGateway

namespace FilterClause

/-- The clause that looks for a part in a field is satisfied by every record
that holds a text with this part there. -/
def FindsWithin (field part : String) : Prop :=
  ∀ (record : Json) (text : String),
    record.get? field = some (.string text) →
    part.toList <:+: text.toList →
    (FilterClause.mk field .like part).isSatisfied record = true

theorem isSatisfied_like_iff {record : Json} {field text : String}
    (held : record.get? field = some (.string text)) (part : String) :
    (FilterClause.mk field .like part).isSatisfied record = true ↔
      lowercase part.toList <:+: lowercase text.toList := by
  have present : record.present? field = some (.string text) := by
    rw [Json.present?, held]
    rfl
  have satisfiedEq :
      (FilterClause.mk field .like part).isSatisfied record =
        containsCaseless (record.present? field) part := rfl
  rw [satisfiedEq, present]
  exact occursIn_iff_isInfix

/-- A text is found in all records that hold it as a part if and only if its
capital sigmas are settled by letters of its own; above all if it has none. -/
theorem findsWithin_iff (field part : String) :
    (FindsWithin field part ↔ SigmasSettled part.toList) ∧
      ('Σ' ∉ part.toList → FindsWithin field part) := by
  have findsIff : FindsWithin field part ↔ SigmasSettled part.toList := by
    rw [← lowercase_infix_iff]
    constructor
    · intro finds text inside
      have held : Json.get? (.object [(field, .string (String.ofList text))])
          field = some (.string (String.ofList text)) := by
        simp [Json.get?, OrderedMap.findEntry]
      have found := finds _ (String.ofList text) held (by simpa using inside)
      rwa [isSatisfied_like_iff held, String.toList_ofList] at found
    · intro found record text held inside
      exact (isSatisfied_like_iff held part).mpr (found _ inside)
  refine ⟨findsIff, fun absent => findsIff.mpr ?_⟩
  intro before behind split
  exact absurd (by simp [split]) absent

/-- The beginning of a word is not found in the word. -/
theorem not_findsWithin_music :
    "ΜΟΥΣ".toList <:+: "ΜΟΥΣΙΚΗ".toList ∧
      (FilterClause.mk "title" .like "ΜΟΥΣ").isSatisfied
        (.object [("title", .string "ΜΟΥΣΙΚΗ")]) = false ∧
      ¬FindsWithin "title" "ΜΟΥΣ" := by
  have inside : "ΜΟΥΣ".toList <:+: "ΜΟΥΣΙΚΗ".toList :=
    ⟨[], ['Ι', 'Κ', 'Η'], rfl⟩
  refine ⟨inside, by decide +kernel, fun finds => ?_⟩
  have settled := (findsWithin_iff "title" "ΜΟΥΣ").1.mp finds
  have final := settled ['Μ', 'Ο', 'Υ'] [] rfl
  exact absurd final (by decide +kernel)

end FilterClause

end TableGateway
