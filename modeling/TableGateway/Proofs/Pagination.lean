import TableGateway.Proofs.Numeric.Integers
import TableGateway.Proofs.Pagination.Entries

/-!
# Pagination texts

The text of a page asks for a limit and an offset, and for what another text
asks for besides. The main statements are `Pagination.limit?_pageText`,
`Pagination.offset?_pageText` and `Pagination.orderBy?_pageText`: the numbers
read back unless they are too large for a word, and the order is the other
text's. The fields that an order can have are words, and every word is one
(`Pagination.isWord_of_readOrder?`, `Pagination.readOrder?_orderText`).
-/

namespace TableGateway

theorem isBlank_of_isDigit {letter : Char}
    (digit : letter.isDigit = true) : isBlank letter = false := by
  have bounds : 48 ≤ letter.toNat ∧ letter.toNat ≤ 57 := by
    simpa [Char.isDigit, UInt32.le_iff_toNat_le] using digit
  simp only [isBlank, Bool.or_eq_false_iff, Bool.and_eq_false_iff,
    beq_eq_false_iff_ne, decide_eq_false_iff_not]
  omega

namespace Pagination

/-! ## Writing -/

/-- An entry with a number. -/
def entryText (key : String) (number : Nat) : List Char :=
  key.toList ++ '=' :: decimalDigits number

/-- The text of a page: its limit and its offset, and behind them what else is
asked for. -/
def pageText (limit offset : Nat) (others : Option String) : String :=
  String.ofList <|
    entryText "limit" limit ++ ';' ::
      (entryText "offset" offset ++
        match others with
        | none => []
        | some text => ';' :: text.toList)

/-! ## Reading -/

section Entries

variable {segment : List Char} (table : String)

theorem entries_parse_append (clean : ';' ∉ segment)
    (unblank : isBlankText segment = false) (rest : List Char) :
    (parse (String.ofList (segment ++ ';' :: rest)) table).entries =
      parseEntry segment :: (parse (String.ofList rest) table).entries := by
  have cut : segments ';' (segment ++ ';' :: rest) =
      segment :: segments ';' rest := by
    apply segmentsBy_append_cut (by simp)
    intro letter member
    rw [beq_eq_false_iff_ne]
    exact fun same => clean (same ▸ member)
  simp [parse, cut, unblank]

theorem entries_parse_single (clean : ';' ∉ segment)
    (unblank : isBlankText segment = false) :
    (parse (String.ofList segment) table).entries =
      [parseEntry segment] := by
  have whole : segments ';' segment = [segment] := by
    apply segmentsBy_of_clean
    intro letter member
    rw [beq_eq_false_iff_ne]
    exact fun same => clean (same ▸ member)
  simp [parse, whole, unblank]

end Entries

/-! ## Numbered entries -/

section Numbered

variable {key : String} (number : Nat)

theorem parseEntry_entryText
    (unblank : key.toList.all (!isBlank ·) = true)
    (clean : '=' ∉ key.toList) :
    parseEntry (entryText key number) =
      (key, String.ofList (decimalDigits number)) := by
  have keyTrim : trim key.toList = key.toList :=
    trim_of_unblank (by simpa using unblank)
  have digitsTrim : trim (decimalDigits number) = decimalDigits number :=
    trim_of_unblank fun letter member =>
      isBlank_of_isDigit (all_isDigit_decimalDigits number letter member)
  rw [entryText, parseEntry_append keyTrim clean digitsTrim,
    String.ofList_toList]

theorem notMem_entryText (clean : ';' ∉ key.toList) :
    ';' ∉ entryText key number := by
  rw [entryText, List.mem_append, List.mem_cons, not_or, not_or]
  refine ⟨clean, by decide, fun member => ?_⟩
  have digit := all_isDigit_decimalDigits number ';' member
  exact absurd digit (by decide)

theorem isBlankText_entryText :
    isBlankText (entryText key number) = false :=
  isBlankText_entry

end Numbered

/-! ## The text of a page -/

section Page

variable (limit offset : Nat) (others : Option String) (table : String)

theorem entries_pageText :
    (parse (pageText limit offset others) table).entries =
      ("limit", String.ofList (decimalDigits limit)) ::
        ("offset", String.ofList (decimalDigits offset)) ::
        match others with
        | none => []
        | some text => (parse text table).entries := by
  have limitRead : parseEntry (entryText "limit" limit) =
      ("limit", String.ofList (decimalDigits limit)) :=
    parseEntry_entryText limit (by decide) (by decide)
  have offsetRead : parseEntry (entryText "offset" offset) =
      ("offset", String.ofList (decimalDigits offset)) :=
    parseEntry_entryText offset (by decide) (by decide)
  have offsetClean : ';' ∉ entryText "offset" offset :=
    notMem_entryText offset (by decide)
  unfold pageText
  rw [entries_parse_append table (notMem_entryText limit (by decide))
    (isBlankText_entryText limit), limitRead]
  cases others with
  | none =>
      rw [List.append_nil, entries_parse_single table offsetClean
        (isBlankText_entryText offset), offsetRead]
  | some text =>
      rw [entries_parse_append table offsetClean
        (isBlankText_entryText offset), offsetRead, String.ofList_toList]

theorem limit?_pageText :
    (parse (pageText limit offset others) table).limit? =
      (some limit).filter (· ≤ wordMax) := by
  rw [limit?, get?, entries_pageText, ← readWord?_decimalDigits]
  simp

theorem offset?_pageText :
    (parse (pageText limit offset others) table).offset? =
      (some offset).filter (· ≤ wordMax) := by
  rw [offset?, get?, entries_pageText, ← readWord?_decimalDigits]
  simp

theorem orderBy?_pageText :
    (parse (pageText limit offset others) table).orderBy? =
      others.bind fun text => (parse text table).orderBy? := by
  rw [orderBy?, get?, entries_pageText]
  cases others with
  | none => simp
  | some text => simp [orderBy?, get?]

end Page

/-! ## Orders -/

/-- A name that an order can be asked for by. -/
def IsWord (name : String) : Prop :=
  name ≠ "" ∧ ∀ letter ∈ name.toList, isBlank letter = false

/-- The letters of a word are taken up one by one. -/
theorem blankWordsFrom_append {word : List Char}
    (unblank : ∀ letter ∈ word, isBlank letter = false)
    (current rest : List Char) :
    blankWordsFrom current (word ++ rest) =
      blankWordsFrom (word.reverse ++ current) rest := by
  induction word generalizing current with
  | nil => rfl
  | cons head tail inductionHypothesis =>
      have tailEq := inductionHypothesis
        (fun letter member => unblank letter (by simp [member]))
        (head :: current)
      rw [List.cons_append, blankWordsFrom, unblank head (by simp),
        if_neg (by decide), tailEq]
      simp

theorem blankWords_append_blank {word : List Char} (notEmpty : word ≠ [])
    (unblank : ∀ letter ∈ word, isBlank letter = false) {blank : Char}
    (isBlank : isBlank blank = true) (rest : List Char) :
    blankWords (word ++ blank :: rest) = word :: blankWords rest := by
  rw [blankWords, blankWordsFrom_append unblank, List.append_nil,
    blankWordsFrom, isBlank]
  simp [notEmpty, blankWords]

theorem blankWords_of_unblank {word : List Char} (notEmpty : word ≠ [])
    (unblank : ∀ letter ∈ word, isBlank letter = false) :
    blankWords word = [word] := by
  have taken := blankWordsFrom_append unblank [] []
  rw [List.append_nil, List.append_nil] at taken
  rw [blankWords, taken, blankWordsFrom]
  simp [notEmpty]

theorem isWord_of_mem_blankWordsFrom {text current word : List Char}
    (unblank : ∀ letter ∈ current, isBlank letter = false)
    (member : word ∈ blankWordsFrom current text) :
    word ≠ [] ∧ ∀ letter ∈ word, isBlank letter = false := by
  induction text generalizing current with
  | nil =>
      unfold blankWordsFrom at member
      split at member
      · cases member
      · rw [List.mem_singleton] at member
        subst member
        simp_all
  | cons head tail inductionHypothesis =>
      unfold blankWordsFrom at member
      split at member
      · split at member
        · exact inductionHypothesis (by simp) member
        · rcases List.mem_cons.mp member with rfl | inTail
          · simp_all
          · exact inductionHypothesis (by simp) inTail
      · exact inductionHypothesis (by simp_all) member

theorem isWord_ofList {word : List Char}
    (isWord : word ≠ [] ∧ ∀ letter ∈ word, isBlank letter = false) :
    IsWord (String.ofList word) := by
  refine ⟨fun empty => isWord.1 ?_, ?_⟩
  · have letters := congrArg String.toList empty
    rwa [String.toList_ofList] at letters
  · rw [String.toList_ofList]
    exact isWord.2

/-- Only a word can be the field of an order. -/
theorem isWord_of_readOrder? {text : String} {order : OrderBy}
    (read : readOrder? text = some order) : IsWord order.field := by
  have words : ∀ word ∈ blankWords text.toList,
      word ≠ [] ∧ ∀ letter ∈ word, isBlank letter = false :=
    fun word member => isWord_of_mem_blankWordsFrom (by simp) member
  unfold readOrder? at read
  cases found : blankWords text.toList with
  | nil =>
      rw [found] at read
      cases read
  | cons field others =>
      have fieldWord := isWord_ofList (words field (by simp [found]))
      rw [found] at read
      cases others with
      | nil =>
          obtain rfl := Option.some.inj read
          exact fieldWord
      | cons direction rest =>
          obtain rfl := Option.some.inj read
          exact fieldWord

/-- The text that asks for an order. -/
def orderText (order : OrderBy) : String :=
  if order.ascending then order.field else order.field ++ " desc"

theorem readOrder?_orderText {order : OrderBy} (word : IsWord order.field) :
    readOrder? (orderText order) = some order := by
  obtain ⟨field, ascending⟩ := order
  obtain ⟨notEmpty, unblank⟩ := word
  have letters : field.toList ≠ [] := by
    simpa using notEmpty
  cases ascending with
  | true =>
      have words : blankWords field.toList = [field.toList] :=
        blankWords_of_unblank letters unblank
      have textEq : orderText ⟨field, true⟩ = field := rfl
      rw [textEq, readOrder?, words]
      simp
  | false =>
      have textLetters : (orderText ⟨field, false⟩).toList =
          field.toList ++ ' ' :: "desc".toList := String.toList_append
      have words : blankWords (orderText ⟨field, false⟩).toList =
          [field.toList, "desc".toList] := by
        rw [textLetters, blankWords_append_blank letters unblank (by decide)]
        exact congrArg (field.toList :: ·) (by decide)
      have descends : sameAsciiCaseless "desc" "desc" = true := by decide
      rw [readOrder?, words]
      simp [descends]

end Pagination

end TableGateway
