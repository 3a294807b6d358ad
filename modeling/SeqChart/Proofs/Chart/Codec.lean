import SeqChart.Proofs.Data.Except
import SeqChart.Chart.Load
/-!
Entities and rows come back from plain data as they were: `Entity.load_toPlain`,
`Arc.loadRowList_rowsToPlain`. What is left out when it is empty is what its absence is read as.
-/

namespace SeqChart

namespace Plain

/-- The members of a record. -/
def named (fields : List (String × Plain)) : List (Scalar × Plain) :=
  fields.map fun (name, value) => (.text name, value)

theorem record_eq (fields : List (String × Plain)) : record fields = .object (named fields) := rfl

variable {name other : String} {value : Plain} {fields : List (String × Plain)}
  {attrs : Mapping Scalar Plain} {items : List Plain}

@[simp]
theorem member?_nil : member? name (named []) = none := rfl

@[simp]
theorem member?_cons :
    member? name (named ((other, value) :: fields)) =
      if other = name then some value else member? name (named fields) := by
  have : (Scalar.text other == .text name) = decide (other = name) := by
    rw [Bool.eq_iff_iff, Scalar.beq_iff]
    simp [Scalar.key]
  rw [member?, named, List.map_cons, List.find?_cons, this]
  by_cases same : other = name
  · simp [same]
  · simp [same, member?, named]

@[simp]
theorem member?_append {first second : List (String × Plain)} :
    member? name (named (first ++ second)) =
      (member? name (named first)).or (member? name (named second)) := by
  rw [named, List.map_append, member?, List.find?_append, Option.map_or]
  rfl

@[simp]
theorem member?_unless {p : Prop} [Decidable p] :
    member? name (named (if p then [] else fields)) =
      if p then none else member? name (named fields) := by
  split <;> rfl

@[simp]
theorem member?_attrsMember :
    member? name (named (attrsMember attrs)) =
      if "attrs" = name ∧ attrs.entries ≠ [] then some (.object attrs.entries) else none := by
  obtain ⟨entries, apart⟩ := attrs
  cases entries <;> simp [attrsMember, Mapping.isEmpty]

@[simp]
theorem member?_listMember :
    member? name (named (listMember other items)) =
      if other = name ∧ items ≠ [] then some (.list items) else none := by
  cases items <;> simp [listMember]

theorem need_of_member? {members : List (Scalar × Plain)}
    (found : member? name members = some value) : need name members = .ok value := by
  rw [need, found]

theorem attrsAt_of_member? {members : List (Scalar × Plain)}
    (found : member? "attrs" members =
      if attrs.entries ≠ [] then some (.object attrs.entries) else none) :
    attrsAt members = .ok attrs := by
  have kept := Mapping.ofList_entries attrs
  rw [attrsAt, found]
  cases empty : attrs.entries with
  | nil =>
    rw [empty] at kept
    exact congrArg Except.ok kept
  | cons =>
    rw [empty] at kept
    exact congrArg Except.ok kept

theorem itemsAt_of_present {members : List (Scalar × Plain)}
    (found : member? name members = some (.list items)) : itemsAt name members = .ok items := by
  rw [itemsAt, found]
  rfl

theorem itemsAt_of_member? {members : List (Scalar × Plain)}
    (found : member? name members = if items ≠ [] then some (.list items) else none) :
    itemsAt name members = .ok items := by
  rw [itemsAt, found]
  cases items <;> rfl

end Plain

theorem Entity.load_record {fields : List (String × Plain)} {entity : Entity Scalar Plain}
    (name : Plain.need "name" (Plain.named fields) = .ok entity.name)
    (attrs : Plain.attrsAt (Plain.named fields) = .ok entity.attrs)
    (comments : Plain.itemsAt "comments" (Plain.named fields) = .ok entity.comments) :
    load (.record fields) = .ok entity := by
  rw [Plain.record_eq]
  simp only [load, Plain.indexed, name, attrs, comments, bind, Except.bind]

theorem Entity.load_toPlain (entity : Entity Scalar Plain) : load entity.toPlain = .ok entity :=
  load_record (Plain.need_of_member? (by simp)) (Plain.attrsAt_of_member? (by simp))
    (Plain.itemsAt_of_member? (by simp))

theorem Entity.mapM_load (entities : List (Entity Scalar Plain)) :
    (entities.map toPlain).mapM load = .ok entities := by
  induction entities with
  | nil => rfl
  | cons entity rest step =>
    rw [List.map_cons, List.mapM_cons, load_toPlain, step]
    rfl

namespace Arc

theorem loadRowsAt_eq (members : List (Scalar × Plain)) :
    loadRowsAt members = match Plain.member? "arcs" members with
      | some value => loadRows value
      | none => .ok [] := by
  induction members with
  | nil => rfl
  | cons member rest step =>
    obtain ⟨key, value⟩ := member
    rw [loadRowsAt, Plain.member?, List.find?_cons, step]
    cases key == .text "arcs" <;> simp [Plain.member?]

theorem loadEnds_of_base {arc : Arc Scalar Plain} {token : String} {source target : Plain}
    {attrs : Mapping Scalar Plain} {members : List (Scalar × Plain)}
    (base : ∀ name ≠ "arcs", Plain.member? name members =
      Plain.member? name (Plain.named
        (baseMembers arc token [("from", source), ("to", target)] attrs))) :
    loadEnds members = .ok (source, target) := by
  have source : Plain.need "from" members = .ok source :=
    Plain.need_of_member? (by simp [base, baseMembers])
  have target : Plain.need "to" members = .ok target :=
    Plain.need_of_member? (by simp [base, baseMembers])
  simp only [loadEnds, source, target, bind, Except.bind]

section

variable {arc : Arc Scalar Plain} {token : String} {ends : List (String × Plain)}
  {attrs : Mapping Scalar Plain} {members : List (Scalar × Plain)}
  (base : ∀ name ≠ "arcs", Plain.member? name members =
    Plain.member? name (Plain.named (baseMembers arc token ends attrs)))

include base

theorem loadClass_of_base : loadClass members = .ok arc.arcClass := by
  have tagged : Plain.need "type" members = .ok (.text arc.arcClass.tag) :=
    Plain.need_of_member? (by simp [base, baseMembers])
  have known : ArcClass.ofTag? arc.arcClass.tag = some arc.arcClass := by
    cases arc.arcClass <;> decide
  simp only [loadClass, tagged, known, bind, Except.bind]

theorem loadHead_of_base {α : Type} {typeName : String} {ofToken? : String → Option α} {kind : α}
    (known : ofToken? token = some kind) (free : ∀ name ∈ ["attrs", "comments"],
      Plain.member? name (Plain.named ends) = none) :
    loadHead typeName ofToken? members = .ok (kind, attrs, arc.comments) := by
  have given : Plain.need "kind" members = .ok (.text token) :=
    Plain.need_of_member? (by simp [base, baseMembers])
  have attrs : Plain.attrsAt members = .ok attrs :=
    Plain.attrsAt_of_member? (by simp [base, baseMembers, free])
  have comments : Plain.itemsAt "comments" members = .ok arc.comments :=
    Plain.itemsAt_of_member? (by simp [base, baseMembers, free])
  simp only [loadHead, given, loadKind, known, attrs, comments, bind, Except.bind]

end

mutual

theorem load_toPlain : ∀ arc : Arc Scalar Plain, load arc.toPlain = .ok arc
  | .message kind source target attrs comments => by
    have known : ArcKind.ofToken? kind.token = some kind := by cases kind <;> decide
    rw [toPlain, Plain.record_eq, load]
    refine Except.bind_eq_ok_iff.2 ⟨_, loadClass_of_base fun _ _ => rfl, ?_⟩
    refine Except.bind_eq_ok_iff.2 ⟨_, loadHead_of_base (fun _ _ => rfl) known (by simp), ?_⟩
    exact Except.bind_eq_ok_iff.2 ⟨_, loadEnds_of_base fun _ _ => rfl, rfl⟩
  | .box kind source target attrs comments => by
    have known : BoxKind.ofToken? kind.token = some kind := by cases kind <;> decide
    rw [toPlain, Plain.record_eq, load]
    refine Except.bind_eq_ok_iff.2 ⟨_, loadClass_of_base fun _ _ => rfl, ?_⟩
    refine Except.bind_eq_ok_iff.2 ⟨_, loadHead_of_base (fun _ _ => rfl) known (by simp), ?_⟩
    exact Except.bind_eq_ok_iff.2 ⟨_, loadEnds_of_base fun _ _ => rfl, rfl⟩
  | .empty kind attrs comments => by
    have known : EmptyKind.ofToken? kind.token = some kind := by cases kind <;> decide
    rw [toPlain, Plain.record_eq, load]
    refine Except.bind_eq_ok_iff.2 ⟨_, loadClass_of_base fun _ _ => rfl, ?_⟩
    exact Except.bind_eq_ok_iff.2
      ⟨_, loadHead_of_base (fun _ _ => rfl) known fun _ _ => rfl, rfl⟩
  | .inline kind source target rows attrs comments => by
    have known : InlineKind.ofToken? kind.token = some kind := by cases kind <;> decide
    -- The rows come behind what every arc has.
    have base {fields : List (String × Plain)} : ∀ name ≠ "arcs",
        Plain.member? name (Plain.named (fields ++ [("arcs", .list (rowsToPlain rows))])) =
          Plain.member? name (Plain.named fields) := by
      intro name other
      simp [other.symm]
    have inner : loadRowsAt (Plain.named
        (baseMembers (.inline kind source target rows attrs comments)
          kind.token [("from", source), ("to", target)] attrs ++
            [("arcs", .list (rowsToPlain rows))])) = .ok rows := by
      rw [loadRowsAt_eq]
      simp [baseMembers, loadRows, loadRowList_rowsToPlain rows]
    rw [toPlain, Plain.record_eq, load]
    refine Except.bind_eq_ok_iff.2 ⟨_, loadClass_of_base base, ?_⟩
    refine Except.bind_eq_ok_iff.2 ⟨_, loadHead_of_base base known (by simp), ?_⟩
    refine Except.bind_eq_ok_iff.2 ⟨_, loadEnds_of_base base, ?_⟩
    exact Except.bind_eq_ok_iff.2 ⟨_, inner, rfl⟩

theorem loadArcs_rowToPlain : ∀ row : List (Arc Scalar Plain), loadArcs (rowToPlain row) = .ok row
  | [] => rfl
  | arc :: rest => by
    rw [rowToPlain, loadArcs, load_toPlain arc, loadArcs_rowToPlain rest]
    rfl

theorem loadRowList_rowsToPlain : ∀ rows : Rows Scalar Plain,
    loadRowList (rowsToPlain rows) = .ok rows
  | [] => rfl
  | row :: rest => by
    rw [rowsToPlain, loadRowList, loadRow, loadArcs_rowToPlain row, loadRowList_rowsToPlain rest]
    rfl

end

end Arc

end SeqChart
