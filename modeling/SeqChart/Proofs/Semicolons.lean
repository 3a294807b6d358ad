import SeqChart.Proofs.Data.Except
import SeqChart.Proofs.Grammar.Sites
import SeqChart.Proofs.Writing.Rows
/-!
The semicolon after an inline expression at the end of a row. Main statement,
`parse_without_semicolon`: to leave it out costs the next row its comments, and to put it there
changes nothing.
-/

namespace SeqChart

open Grammar

namespace Chart

theorem parse_of_edit (sep sep' : String) {source front behind : String} {limit : Int}
    {chart chart' : Chart}
    {RowEnd : (List Char → Rows String String → List Char → Prop) → List String →
      List Char → Rows String String → List Char → List Char → Rows String String → Prop}
    (ends : ∀ levels, EndsRow sep.toList sep'.toList (Grammar.Block levels)
      (RowEnd (Grammar.Block levels)))
    (read : Chart.parse source limit = .ok chart) (text : source = front ++ sep ++ behind)
    (site : ProgramSite RowEnd limit.toNat source.toList chart behind.toList chart') :
    Chart.parse (front ++ sep' ++ behind) limit = .ok chart' := by
  obtain ⟨x, z, z', splits, edit, program, options, opens⟩ := programSite_carries ends site
  have whole : (front ++ sep' ++ behind).toList = x ++ z' := by
    obtain ⟨layout⟩ := edit
    rw [text] at splits
    have same : front.toList = x ++ '\x7d' :: layout := by
      refine (List.append_left_inj (sep.toList ++ behind.toList)).1 ?_
      simpa using splits
    simp [same]
  rw [Chart.parse_eq_ok, whole]
  refine ⟨program, fun unset opens' => ?_⟩
  have unset : chart.options = {} := options ▸ unset
  exact (Chart.parse_eq_ok.1 read).2 unset (opens unset opens')

/-- Let a text be read as a chart. Without a semicolon that ends a row behind an inline expression,
at any depth, it is read as the same chart, but that the first arc of the next row in the same block
has no comments if there is one. Where such a row ends without a semicolon, the text with one before
the next token is read as the same chart. -/
theorem parse_without_semicolon {source : String} {limit : Int} {chart : Chart}
    (read : Chart.parse source limit = .ok chart) :
    (∀ front behind chart', source = front ++ ";" ++ behind →
      ProgramSite ClosedEnd limit.toNat source.toList chart behind.toList chart' →
      Chart.parse (front ++ behind) limit = .ok chart') ∧
    (∀ front behind chart', source = front ++ behind →
      ProgramSite OpenEnd limit.toNat source.toList chart behind.toList chart' →
      Chart.parse (front ++ ";" ++ behind) limit = .ok chart' ∧ chart' = chart) := by
  constructor
  · intro front behind chart' text site
    have read' := parse_of_edit ";" "" closedEnd_endsRow read text site
    rwa [String.append_empty] at read'
  · intro front behind chart' text site
    have read' := parse_of_edit "" ";" openEnd_endsRow read
      (by simpa using text) site
    refine ⟨read', site.eq_of_same fun levels before s rows r p rows' site => ?_⟩
    cases site with
    | mk => rfl

/-- A block in a block, with a semicolon behind the inner one and none behind the outer one. -/
def nestedBlocks : String := "msc\x7ba alt b\x7bc opt d\x7b\x7d;/*x*/...;\x7d|||;\x7d"

/-- What it means, with the comment or without. -/
def nestedBlocksChart (comments : List String) : Chart where
  options := {}
  rows := [
    [.inline .alt "a" "b" [[.inline .opt "c" "d" [] ∅ []], [.empty .omitted ∅ comments]] ∅ []],
    [.empty .spacer ∅ []]]

open Writer in
theorem inlineHead_nested (kind : InlineKind) {c d : Char} (r : List Char)
    (letters : Text.isWord c = true ∧ Text.isWord d = true)
    (free : Text.lowerText (String.ofList [c]) ∉ reservedWords ∧
      Text.lowerText (String.ofList [d]) ∉ reservedWords) :
    InlineHead (c :: ' ' :: (kind.token.toList ++ ' ' :: d :: '\x7b' :: r)) kind (String.ofList [c])
      (String.ofList [d]) ∅ r := by
  have source : Name (c :: ' ' :: (kind.token.toList ++ ' ' :: d :: '\x7b' :: r))
      (String.ofList [c]) (' ' :: (kind.token.toList ++ ' ' :: d :: '\x7b' :: r)) :=
    .bare (word_append (w := [c]) ⟨by simp, by simpa using letters.1⟩ (endsWord_blank _)) free.1
  have target : Name (d :: '\x7b' :: r) (String.ofList [d]) ('\x7b' :: r) :=
    .bare (word_append (w := [d]) ⟨by simp, by simpa using letters.2⟩
      (endsWord_cons r (by decide))) free.2
  have keyword := keyword_written (mem_reservedWords_inline kind)
    (endsWord_blank (d :: '\x7b' :: r))
  have other : String.ofList [c] ≠ broadcast := by
    intro same
    obtain rfl : c = '*' := by simpa [broadcast] using congrArg String.toList same
    exact absurd letters.1 (by decide)
  exact ⟨⟨source, other, gap_blank _, keyword⟩, gap_blank _, target, .absent, Gap.refl _⟩

theorem parse_without_semicolon_nested :
    Chart.parse nestedBlocks 2 = .ok (nestedBlocksChart ["/*x*/"]) ∧
    Chart.parse "msc\x7ba alt b\x7bc opt d\x7b\x7d/*x*/...;\x7d|||;\x7d" 2 =
      .ok (nestedBlocksChart []) ∧
    Chart.parse "msc\x7ba alt b\x7bc opt d\x7b\x7d;/*x*/...;\x7d;|||;\x7d" 2 =
      .ok (nestedBlocksChart ["/*x*/"]) := by
  have keyword : Keyword "msc" nestedBlocks.toList
      "\x7ba alt b\x7bc opt d\x7b\x7d;/*x*/...;\x7d|||;\x7d".toList :=
    Writer.keyword_written (by decide) (by rintro c ⟨⟩; decide)
  have outer := inlineHead_nested .alt "c opt d\x7b\x7d;/*x*/...;\x7d|||;\x7d".toList
    (by decide : Text.isWord 'a' = true ∧ Text.isWord 'b' = true) (by decide)
  have inner := inlineHead_nested .opt "\x7d;/*x*/...;\x7d|||;\x7d".toList
    (by decide : Text.isWord 'c' = true ∧ Text.isWord 'd' = true) (by decide)
  have comment : Layout "/*x*/...;\x7d|||;\x7d".toList ["/*x*/"] "...;\x7d|||;\x7d".toList :=
    .block ⟨['x'], rfl, by decide⟩ .done
  have omitted (before : List String) : ArcItem (Grammar.Block 1) before
      "...;\x7d|||;\x7d".toList (.empty .omitted ∅ before) ";\x7d|||;\x7d".toList :=
    show ArcItem _ _ (EmptyKind.omitted.token.toList ++ _) _ _ from .empty .absent
  have spacer : ArcItem (Grammar.Block 2) [] "|||;\x7d".toList (.empty .spacer ∅ [])
      ";\x7d".toList :=
    show ArcItem _ _ (EmptyKind.spacer.token.toList ++ _) _ _ from .empty .absent
  have next (before : List String) : RowList (Grammar.Block 1) before "...;\x7d|||;\x7d".toList
      [[.empty .omitted ∅ before]] "\x7d|||;\x7d".toList :=
    .closed (.one (omitted before)) (Gap.refl _) .done .nil
  have behind : RowList (Grammar.Block 2) [] "|||;\x7d".toList [[.empty .spacer ∅ []]]
      "\x7d".toList :=
    .closed (.one spacer) (Gap.refl _) .done .nil
  have block : ArcItem (Grammar.Block 1) [] "c opt d\x7b\x7d;/*x*/...;\x7d|||;\x7d".toList
      (.inline .opt "c" "d" [] ∅ []) ";/*x*/...;\x7d|||;\x7d".toList :=
    .of_head inner ⟨[], _, .done, .nil⟩ (Gap.refl _)
  have arc : ArcItem (Grammar.Block 2) []
      "a alt b\x7bc opt d\x7b\x7d;/*x*/...;\x7d|||;\x7d".toList
      (.inline .alt "a" "b" [[.inline .opt "c" "d" [] ∅ []], [.empty .omitted ∅ ["/*x*/"]]] ∅ [])
      "|||;\x7d".toList :=
    .of_head outer ⟨[], _, .done, .closed (.one block) (Gap.refl _) comment (next _)⟩ (Gap.refl _)
  have closed : ProgramSite ClosedEnd 2 nestedBlocks.toList (nestedBlocksChart ["/*x*/"])
      "/*x*/...;\x7d|||;\x7d".toList (nestedBlocksChart []) :=
    .mk .done keyword (Gap.refl _) .done .absent .absent
      (.inUnclosed (.one (.inline outer ⟨[], _, .done, .here (.mk (.one block) ⟨_, rfl, rfl⟩
        (Gap.refl _) comment (next _))⟩ (Gap.refl _))) ⟨_, rfl, rfl⟩ (Gap.refl _) behind)
      (Gap.refl _) (Gap.refl _)
  have unclosed : ProgramSite OpenEnd 2 nestedBlocks.toList (nestedBlocksChart ["/*x*/"])
      "|||;\x7d".toList (nestedBlocksChart ["/*x*/"]) :=
    .mk .done keyword (Gap.refl _) .done .absent .absent
      (.here (.mk (.one arc) ⟨_, rfl, rfl⟩ (Gap.refl _) (solid_cons (by decide)) behind))
      (Gap.refl _) (Gap.refl _)
  have body : Grammar.Body 2 [] "a alt b\x7bc opt d\x7b\x7d;/*x*/...;\x7d|||;\x7d".toList
      (nestedBlocksChart ["/*x*/"]).toContent "\x7d".toList :=
    .mk .absent .absent (.unclosed (.one arc) ⟨_, rfl, rfl⟩ (Gap.refl _) behind)
  have last : Gap "\x7d".toList ('\x7d' :: []) := Gap.refl _
  have opens : ¬ OpensWithAssignment nestedBlocks.toList := fun opens =>
    (arc.assigns_iff.1 ((opens_iff .done keyword (Gap.refl _) .done body last).1 opens)).2
  have read : Chart.parse nestedBlocks 2 = .ok (nestedBlocksChart ["/*x*/"]) :=
    Chart.parse_eq_ok.2 ⟨closed.program closedEnd_endsRow, fun _ => opens⟩
  obtain ⟨without, within⟩ := parse_without_semicolon read
  have without := without "msc\x7ba alt b\x7bc opt d\x7b\x7d" "/*x*/...;\x7d|||;\x7d" _
    (by decide) closed
  have within := within "msc\x7ba alt b\x7bc opt d\x7b\x7d;/*x*/...;\x7d" "|||;\x7d" _
    (by decide) unclosed
  exact ⟨read, without, within.1⟩

end Chart

end SeqChart
