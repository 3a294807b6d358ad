import SeqChart.Proofs.Grammar.Exchange
import SeqChart.Proofs.Writing.Rows
/-!
Texts that break off. What stands before some place of a text may be the start of a text that a rule
takes, whatever stands at the place itself (`Completable`). So it is where a rule may start
(`completable_of_gap`), and it is passed on from a rule to one that the rule is part of, whether
that goes on with something else (`Completable.andThen`) or began with something else
(`Completable.after`).
-/

namespace SeqChart.Grammar

variable {R Q : List Char → List Char → Prop} {s t z : List Char}

/-- What stands before `z` is the start of a text that the rule takes, whatever is left behind it.
The rest of that text is put on a new line. -/
def Completable (R : List Char → List Char → Prop) (s z : List Char) : Prop :=
  ∃ y more, s = y ++ z ∧ ∀ tail, R (y ++ '\n' :: (more ++ tail)) tail

/-- There is a text that the rule takes, whatever is left behind it. -/
def Startable (R : List Char → List Char → Prop) : Prop := ∃ more, ∀ tail, R (more ++ tail) tail

/-- The rule takes `s` up to `t` also when a new line is put in the place of `z`. -/
def Breaks (R : List Char → List Char → Prop) (s t z : List Char) : Prop :=
  ∀ y tail, t = y ++ z → ∃ x, s = x ++ z ∧ R (x ++ '\n' :: tail) (y ++ '\n' :: tail)

theorem breaks_of_exchanges (exchanges : ∀ tail, Exchanges z ('\n' :: tail) R) (took : R s t) :
    Breaks R s t z := by
  rintro y tail rfl
  exact exchanges tail took

theorem Breaks.comp {u : List Char} (first : Breaks R s t z) (next : Breaks Q t u z) :
    Breaks (Relation.Comp R Q) s u z := by
  intro y tail left
  obtain ⟨x, rest, took'⟩ := next y tail left
  obtain ⟨o, text, took⟩ := first x tail rest
  exact ⟨o, text, _, took, took'⟩

theorem Completable.imp (completable : Completable R s z)
    (implies : ∀ y w r, s = y ++ z → R (y ++ '\n' :: w) r → Q (y ++ '\n' :: w) r) :
    Completable Q s z := by
  obtain ⟨y, more, text, took⟩ := completable
  exact ⟨y, more, text, fun tail => implies _ _ _ text (took tail)⟩

theorem Completable.andThen (completable : Completable R s z) (start : Startable Q) :
    Completable (Relation.Comp R Q) s z := by
  obtain ⟨y, more, text, took⟩ := completable
  obtain ⟨more', took'⟩ := start
  refine ⟨y, more ++ more', text, fun tail => ⟨more' ++ tail, ?_, took' tail⟩⟩
  rw [List.append_assoc]
  exact took _

theorem Completable.after (next : Completable Q t z) (breaks : Breaks R s t z) :
    Completable (Relation.Comp R Q) s z := by
  obtain ⟨y, more, rfl, took⟩ := next
  obtain ⟨x, text, -⟩ := breaks y [] rfl
  refine ⟨x, more, text, fun tail => ?_⟩
  obtain ⟨x', text', took'⟩ := breaks y (more ++ tail) rfl
  obtain rfl := List.append_cancel_right (text.symm.trans text')
  exact ⟨_, took', took tail⟩

theorem Startable.andThen (start : Startable R) (next : Startable Q) :
    Startable (Relation.Comp R Q) := by
  obtain ⟨more, took⟩ := start
  obtain ⟨more', took'⟩ := next
  refine ⟨more ++ more', fun tail => ⟨more' ++ tail, ?_, took' tail⟩⟩
  rw [List.append_assoc]
  exact took _

theorem layout_newline (s : List Char) : Layout ('\n' :: s) [] s := .blank (by decide) .done

/-- At the place itself, a rule starts on the new line. -/
theorem completable_here (start : Startable Q) :
    Completable (Relation.Comp (Layout · [] ·) Q) z z := by
  obtain ⟨more, took⟩ := start
  exact ⟨[], more, rfl, fun tail => ⟨_, layout_newline _, took tail⟩⟩

/-- Behind layout, a rule starts on the new line. -/
theorem completable_of_gap (gap : Gap s z) (start : Startable Q) :
    Completable (Relation.Comp Gap Q) s z := by
  obtain ⟨more, took⟩ := start
  obtain ⟨x, text, -⟩ := gap_exchanges (.line z []) (y := []) gap
  refine ⟨x, more, text, fun tail => ⟨more ++ tail, ?_, took tail⟩⟩
  obtain ⟨x', text', gap'⟩ := gap_exchanges (.line z (more ++ tail)) (y := []) gap
  obtain rfl := List.append_cancel_right (text.symm.trans text')
  exact gap'.trans (layout_newline _).gap

theorem Gap.breaks (gap : Gap s t) : Breaks Gap s t z :=
  breaks_of_exchanges (fun tail => gap_exchanges (.line z tail)) gap

theorem Layout.breaks {comments : List String} (layout : Layout s comments t) :
    Breaks (Layout · comments ·) s t z :=
  breaks_of_exchanges (fun tail => layout_exchanges (.line z tail) comments) layout

theorem Keyword.breaks {key : String} (keyword : Keyword key s t) : Breaks (Keyword key) s t z :=
  breaks_of_exchanges (fun tail => keyword_exchanges (.line z tail) key) keyword

theorem Gap.breaks_cons {c : Char} {u : List Char} (gap : Gap s (c :: u)) :
    Breaks (fun s r => Gap s (c :: r)) s u z :=
  breaks_of_exchanges (fun tail => gap_cons_exchanges (.line z tail) c) gap

/-- Layout leads to `z` from no point. -/
theorem Gap.no_point_left {y : List Char} (gap : Gap (y ++ z) z) : y.head? ≠ some '.' := by
  rintro point
  obtain ⟨comments, layout⟩ := gap
  rcases layout.eq_or_no_point with same | noPoint
  · rw [List.append_left_eq_self.1 same] at point
    cases point
  · refine noPoint ?_
    rw [List.head?_append, point]
    rfl

/-! ## What rules start with -/

/-- A character behind layout. -/
theorem startable_char (c : Char) : Startable fun s r => s = c :: r := ⟨[c], fun _ => rfl⟩

theorem quoted_letter (c : Char) (plain : c ≠ '"' ∧ c ≠ '\\') (r : List Char) :
    Quoted ('"' :: c :: '"' :: r) [c] r :=
  ⟨_, rfl, .plain plain.1 plain.2 .close⟩

theorem startable_value : Startable fun s r => Value s "1" r :=
  ⟨['"', '1', '"'], fun r => .quoted (quoted_letter '1' (by decide) r)⟩

theorem startable_name : Startable fun s r => Name s "a" r :=
  ⟨['"', 'a', '"'], fun r => .quoted (quoted_letter 'a' (by decide) r) (by simp)⟩

theorem startable_end : Startable fun s r => End s broadcast r := ⟨['*'], fun _ => .all⟩

/-- Whatever it is that is set, it may be set to one. -/
theorem exists_legal (option : OptionName) : ∃ setting, Legal option "1" setting := by
  have digit : Numeral "1".toList := .inr ⟨by decide, List.all_eq_true.1 (by decide)⟩
  rcases option with option | option
  · cases option with
    | watermark => exact ⟨_, .watermark⟩
    | _ => exact ⟨_, .number rfl digit⟩
  · exact ⟨_, .on (by decide)⟩

/-- A value with the equals sign before it. -/
inductive Given : List Char → String → List Char → Prop
  | mk {u v r : List Char} {value : String} :
      Gap u v → Value v value r → Given ('=' :: u) value r

theorem startable_given : Startable fun s r => Given s "1" r := by
  obtain ⟨more, took⟩ := startable_value
  exact ⟨'=' :: more, fun r => .mk (Gap.refl _) (took r)⟩

theorem startable_optionItem : Startable fun s r => ∃ setting, OptionItem s setting r := by
  obtain ⟨more, took⟩ := startable_value
  refine ⟨"watermark".toList ++ '=' :: more, fun r => ⟨.text .watermark "1", ?_⟩⟩
  have word : Word ("watermark".toList ++ '=' :: (more ++ r)) "watermark".toList _ :=
    word_append (by decide) (Writer.endsWord_cons _ rfl)
  rw [List.append_assoc]
  exact .mk ⟨_, word, by decide⟩ (Gap.refl _) (Gap.refl _) (took r) .watermark

theorem startable_assignment : Startable fun s r => ∃ pair, Assignment s pair r := by
  obtain ⟨more, took⟩ := startable_value
  refine ⟨"label".toList ++ '=' :: more, fun r => ⟨("label", "1"), ?_⟩⟩
  have word : Word ("label".toList ++ '=' :: (more ++ r)) "label".toList _ :=
    word_append (by decide) (Writer.endsWord_cons _ rfl)
  rw [List.append_assoc]
  exact .mk word (by decide) (Gap.refl _) (Gap.refl _) (took r)

end SeqChart.Grammar
