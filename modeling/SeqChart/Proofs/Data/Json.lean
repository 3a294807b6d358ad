import SeqChart.Data.Json
/-!
The characters of JSON documents. Main statement, `shown_document`: they are the printable
characters of ASCII and line feeds, so no control sequence of a terminal can stand in one.
-/

namespace SeqChart.Json

/-- A line feed or a printable character of ASCII. -/
def isShown (c : Char) : Bool := c = '\n' || (0x20 ≤ c.toNat && c.toNat < 0x7F)

/-- Every character of the text can stand in a document. -/
def Shown (s : List Char) : Prop := s.all isShown = true

instance (s : List Char) : Decidable (Shown s) := inferInstanceAs (Decidable (_ = _))

theorem shown_iff {s : List Char} : Shown s ↔ ∀ c ∈ s, isShown c = true := List.all_eq_true

theorem Shown.append {s t : List Char} (first : Shown s) (second : Shown t) : Shown (s ++ t) :=
  List.all_append.trans (Bool.and_eq_true_iff.2 ⟨first, second⟩)

theorem Shown.cons {c : Char} {s : List Char} (first : isShown c = true) (rest : Shown s) :
    Shown (c :: s) :=
  List.all_cons.trans (Bool.and_eq_true_iff.2 ⟨first, rest⟩)

theorem Shown.subset {s t : List Char} (shown : Shown t) (among : s ⊆ t) : Shown s :=
  shown_iff.2 fun c member => shown_iff.1 shown c (among member)

theorem shown_replicate (n : Nat) {c : Char} (shown : isShown c = true) :
    Shown (List.replicate n c) :=
  shown_iff.2 fun _ member => (List.eq_of_mem_replicate member).symm ▸ shown

/-! ## Numbers -/

theorem isShown_of_isDigit {c : Char} (digit : c.isDigit = true) : isShown c = true := by
  simp only [Char.isDigit, Bool.and_eq_true, decide_eq_true_eq, ge_iff_le,
    UInt32.le_iff_toNat_le] at digit
  have code : c.toNat = c.val.toNat := rfl
  have low : '0'.val.toNat = 48 := rfl
  have high : '9'.val.toNat = 57 := rfl
  simp only [isShown, Bool.or_eq_true, Bool.and_eq_true, decide_eq_true_eq]
  omega

theorem shown_toDigits (n : Nat) : Shown (Nat.toDigits 10 n) :=
  shown_iff.2 fun _ member =>
    isShown_of_isDigit (Nat.isDigit_of_mem_toDigits (by decide) (by decide) member)

theorem shown_toString (n : Int) : Shown (toString n).toList := by
  have repr (n : Nat) : Shown n.repr.toList := by
    rw [Nat.toList_repr]
    exact shown_toDigits n
  cases n with
  | ofNat n => exact repr n
  | negSucc n =>
    change Shown ("-" ++ (n + 1).repr).toList
    rw [String.toList_append]
    exact .append (by decide) (repr (n + 1))

theorem shown_exponentText (layout : NumberLayout) (order : Int) :
    Shown (layout.exponentText order) := by
  have digits := shown_toDigits order.natAbs
  refine .cons ?_ (.append (shown_replicate _ (by decide)) digits)
  split <;> decide

theorem shown_decimalText (layout : NumberLayout) (value : Decimal) :
    Shown (layout.decimalText value) := by
  have all := shown_toDigits value.digits
  -- All digits that are shown, in either form, are digits of the value.
  have digits : Shown ((Nat.toDigits 10 value.digits).reverse.dropWhile (· == '0')).reverse :=
    all.subset fun c member =>
      List.mem_reverse.1 ((List.dropWhile_suffix _).subset (List.mem_reverse.1 member))
  have taken (n : Nat) := digits.subset (List.take_subset n _)
  have dropped (n : Nat) := digits.subset (List.drop_subset n _)
  unfold NumberLayout.decimalText
  dsimp only
  split
  · refine .append (.append (taken 1) ?_) (.cons (by decide) (shown_exponentText _ _))
    split
    · decide
    · exact .cons (by decide) (dropped 1)
  · split
    · exact .append (.append (by decide) (shown_replicate _ (by decide))) digits
    · refine .append (.append (taken _) (shown_replicate _ (by decide))) (.cons (by decide) ?_)
      split
      · decide
      · exact dropped _

theorem shown_number (x : Binary64) : Shown x.shown.toList := by
  unfold Binary64.shown NumberLayout.text
  split
  · split <;> decide
  · rename_i negative mantissa exponent
    have digits : Shown (if mantissa = 0 then ['0', '.', '0']
        else NumberLayout.message.decimalText (Binary64.shortest mantissa exponent)) := by
      split
      · decide
      · exact shown_decimalText _ _
    rw [String.toList_ofList]
    split
    · exact .cons (by decide) digits
    · exact digits

/-! ## Texts -/

theorem shown_hexDigits (width n : Nat) : Shown (Text.hexDigits width n) := by
  have digit : ∀ d < 16, isShown (Nat.digitChar d) = true := by decide
  refine shown_iff.2 fun c member => ?_
  obtain ⟨place, -, rfl⟩ := List.mem_map.1 member
  exact digit _ (Nat.mod_lt _ (by decide))

theorem shown_unitEscapes (code : Nat) : Shown (unitEscapes code) := by
  have unit (n : Nat) : Shown (['\\', 'u'] ++ Text.hexDigits 4 n) :=
    .append (by decide) (shown_hexDigits 4 n)
  unfold unitEscapes
  dsimp only
  split
  · exact unit _
  · exact (unit _).append (unit _)

theorem shown_escapeChar (c : Char) : Shown (escapeChar c) := by
  unfold escapeChar
  split
  · rename_i special
    rcases special with rfl | rfl <;> decide
  · -- The short escapes come first.
    iterate 5
      split
      · decide
    split
    · rename_i printable
      exact .cons (by simp [isShown, printable]) (by decide)
    · exact shown_unitEscapes _

theorem shown_quoted (s : String) : Shown (quoted s).toList := by
  have inside : Shown (s.toList.flatMap escapeChar) := by
    refine shown_iff.2 fun c member => ?_
    obtain ⟨d, -, member⟩ := List.mem_flatMap.1 member
    exact shown_iff.1 (shown_escapeChar d) c member
  rw [quoted, String.toList_ofList]
  exact .cons (by decide) (inside.append (by decide))

theorem shown_scalarText (value : Scalar) : Shown (scalarText value).toList := by
  cases value with
  | null => decide
  | bool b => cases b <;> decide
  | int n => exact shown_toString n
  | float x =>
    cases x with
    | infinite negative => cases negative <;> decide
    | finite => exact shown_number _
  | text s => exact shown_quoted s

/-! ## Documents -/

theorem shown_intercalate {separator : String} {items : List String}
    (between : Shown separator.toList) (all : ∀ item ∈ items, Shown item.toList) :
    Shown (String.intercalate separator items).toList := by
  induction items with
  | nil =>
    rw [String.intercalate_nil]
    decide
  | cons item rest step =>
    obtain ⟨first, others⟩ := List.forall_mem_cons.1 all
    cases rest with
    | nil =>
      rw [String.intercalate_singleton]
      exact first
    | cons next rest =>
      rw [String.intercalate_cons_cons, String.toList_append, String.toList_append]
      exact (first.append between).append (step others)

theorem shown_bracketed {level : Nat} {opening closing : String} {items : List String}
    (opens : Shown opening.toList) (closes : Shown closing.toList)
    (all : ∀ item ∈ items, Shown item.toList) :
    Shown (bracketed level opening closing items).toList := by
  have line (level : Nat) :
      Shown ("\n" ++ String.ofList (List.replicate (2 * level) ' ')).toList := by
    rw [String.toList_append]
    refine .append (by decide) ?_
    rw [String.toList_ofList]
    exact shown_replicate _ (by decide)
  have between : Shown
      ("," ++ ("\n" ++ String.ofList (List.replicate (2 * (level + 1)) ' '))).toList := by
    rw [String.toList_append]
    exact .append (by decide) (line (level + 1))
  unfold bracketed
  dsimp only
  split
  · rw [String.toList_append]
    exact opens.append closes
  · iterate 4 rw [String.toList_append]
    exact (((opens.append (line _)).append (shown_intercalate between all)).append
      (line level)).append closes

mutual

theorem shown_write (level : Nat) : ∀ value, Shown (write level value).toList
  | .scalar value => shown_scalarText value
  | .list items => shown_bracketed (by decide) (by decide) (shown_writeItems (level + 1) items)
  | .object members =>
    shown_bracketed (by decide) (by decide) (shown_writeMembers (level + 1) members)

theorem shown_writeItems (level : Nat) : ∀ items, ∀ item ∈ writeItems level items, Shown item.toList
  | [], _, member => nomatch member
  | item :: rest, _, member => by
    rcases List.mem_cons.1 member with rfl | member
    · exact shown_write level item
    · exact shown_writeItems level rest _ member

theorem shown_writeMembers (level : Nat) :
    ∀ members, ∀ member ∈ writeMembers level members, Shown member.toList
  | [], _, member => nomatch member
  | (key, value) :: rest, _, member => by
    rcases List.mem_cons.1 member with rfl | member
    · rw [String.toList_append, String.toList_append]
      exact .append (.append (shown_quoted _) (by decide)) (shown_write level value)
    · exact shown_writeMembers level rest _ member

end

theorem shown_document (value : Plain) : Shown (document value).toList := shown_write 0 value

end SeqChart.Json
