import Dialogue.Editor.Reader
import Dialogue.Proofs.Binary64.Whole
import Dialogue.Proofs.Editor.Spelling
import Dialogue.Proofs.Json.Records

/-!
# Every spelling of a definition is imported as that definition

The records of an export are read field by field, as `Json.reads_record` says; what is left are
the fields themselves: which draft they fill (`fills_node` and its like) and what becomes of the
draft. So two exports that spell one definition, however different they look, are imported alike.
-/

namespace Dialogue.Editor

open Json (Absence Blanks Fills FieldSpelling FitsWord IsValue Reads RecordField SpellsChar
  SpellsHex SpellsList SpellsNullable SpellsRecord SpellsText blanks_nil padded_self printText
  readNullable readList readText readValue spellsText_printText)

/-! ## The export of a definition -/

/-- A whole number as an export has it. -/
def exportNumber (x : Binary64) : Json.Number :=
  if x = Binary64.zero.neg then .double x else .int (x.toInt?.getD 0)

/-- A comparand as an export has it. -/
def exportComparand : Value → Json
  | .text s => .text s
  | .bool b => .bool b
  | .number x => .number (exportNumber x)

/-- A condition row of an export. -/
def exportCondition (c : ConditionDefinition) : Condition :=
  ⟨c.variableName, c.operator, exportComparand c.comparand, c.port⟩

/-- An option row of an export. -/
def exportChoice (c : ChoiceDefinition) : Choice :=
  ⟨c.label, c.port⟩

/-- A node of an export. -/
def exportNode (b : BlockDefinition) : Node :=
  ⟨b.id, b.typeName, b.text, b.variableName, b.conditions.map (·.map exportCondition),
    b.choices.map (·.map exportChoice), b.url⟩

/-- A link of an export. -/
def exportLink (l : LinkDefinition) : Link :=
  ⟨l.source, l.target, l.sourcePort, l.targetPort⟩

/-- A definition in the editor's own form. -/
def exportGraph (d : Definition) : Graph :=
  ⟨d.blocks.map exportNode, d.links.map exportLink⟩

/-! ## Values -/

theorem fitsWord_of_natAbs_le {i : Int} (hi : i.natAbs ≤ Nat.pow 2 53) : FitsWord i := by
  have hlimit : Nat.pow 2 53 = 9007199254740992 := rfl
  have hlow : -Int.pow 2 63 = -9223372036854775808 := rfl
  have hhigh : Int.pow 2 64 = 18446744073709551616 := rfl
  rw [FitsWord, hlow, hhigh]
  omega

theorem reads_id {id t : Text} (h : SpellsId id t) (depth : Nat) : Reads (readId depth) t id := by
  rcases h with htext | ⟨i, hi, rfl, rfl⟩
  · exact (htext.reads_value depth).bind fun _ => rfl
  · exact (Json.reads_ofInt hi depth).bind fun _ => rfl

theorem exportNumber_ofInt {i : Int} (hi : i.natAbs ≤ Nat.pow 2 53) :
    exportNumber (Binary64.ofInt i) = .int i := by
  have hexact := Binary64.toInt?_ofInt hi
  have hsign : Binary64.ofInt i ≠ Binary64.zero.neg := by
    intro hminus
    have hzero : Binary64.zero.neg.toInt? = some 0 := by decide +kernel
    rw [hminus, hzero] at hexact
    obtain rfl := Option.some.inj hexact
    revert hminus
    decide +kernel
  rw [exportNumber, if_neg hsign, hexact]
  rfl

theorem exportNumber_minusZero : exportNumber Binary64.zero.neg = .double Binary64.zero.neg :=
  if_pos rfl

theorem reads_comparand {v : Value} {t : Text} (h : SpellsComparand v t) (depth : Nat) :
    Reads (readValue depth) t (exportComparand v) := by
  cases v with
  | text s => exact SpellsText.reads_value h depth
  | bool b =>
      obtain rfl := h
      exact Json.reads_bool b depth
  | number x =>
      rcases h with ⟨i, hi, rfl, rfl⟩ | ⟨rfl, rfl⟩
      · rw [exportComparand, exportNumber_ofInt hi]
        exact Json.reads_ofInt (fitsWord_of_natAbs_le hi) depth
      · rw [exportComparand, exportNumber_minusZero]
        exact Json.reads_minusZero depth

section Containers

variable {α β : Type} {spelled : α → Text → Prop} {t : Text}

theorem reads_nullable {reader : Json.Reader β} {f : α → β}
    (hreads : ∀ a, spelled a t → Reads reader t (f a))
    (hnull : ∀ a, spelled a t → t.head? ≠ some 'n') {o : Option α}
    (h : SpellsNullable spelled o t) : Reads (readNullable reader) t (o.map f) := by
  cases o with
  | none =>
      obtain rfl := h
      exact Json.reads_null reader
  | some a => exact (hreads a h).nullable (hnull a h)

theorem head_text {a : Text} (h : SpellsText a t) : t.head? ≠ some 'n' := by
  obtain ⟨_, -, rfl⟩ := h
  show some '"' ≠ some 'n'
  decide

theorem reads_nullableText {o : Option Text} (h : SpellsNullable SpellsText o t) (depth : Nat) :
    Reads (nullableTextAt depth) t o := by
  have hreads := reads_nullable (f := id) (fun _ => SpellsText.reads) (fun _ => head_text) h
  rw [Option.map_id] at hreads
  exact hreads

theorem reads_spelled {item : Nat → Json.Reader β} {depth : Nat} {f : α → β}
    (hreads : ∀ a t, spelled a t → Reads (item depth) t (f a)) {as : List α}
    (h : SpellsList spelled as t) : Reads (readList (depth + 1) item) t (as.map f) := by
  obtain ⟨items, hitems, hlist⟩ := h
  refine Json.reads_list hlist (List.forall₂_map_right_iff.mpr ?_)
  exact (hitems.imp fun a t ha => hreads a t ha).flip

theorem head_list {as : List α} (h : SpellsList spelled as t) : t.head? ≠ some 'n' := by
  obtain ⟨_, -, s, -, rfl⟩ := h
  show some '[' ≠ some 'n'
  decide

theorem reads_nullableList {item : Nat → Json.Reader β} {depth : Nat} {f : α → β}
    (hreads : ∀ a t, spelled a t → Reads (item depth) t (f a)) {o : Option (List α)}
    (h : SpellsNullable (SpellsList spelled) o t) :
    Reads (readNullable (readList (depth + 1) item)) t (o.map (·.map f)) :=
  reads_nullable (fun _ has => reads_spelled hreads has) (fun _ => head_list) h

end Containers

/-! ## Fields -/

/-- A value that is there or not. -/
def keep {α : Type} (has : Bool) (a : α) : Option α :=
  if has then some a else none

/-- A field whose value is kept as it is read fills the draft that keeps it. -/
theorem fills_field {σ α : Type} {depth : Nat} {draft : (Text → Bool) → σ} {name : String}
    {aliases : List String} {absence : Absence} {get : σ → Option α} {set : σ → α → σ}
    {reader : Nat → Json.Reader α} {spelled : Text → Prop} {omittable : Prop} {a : α}
    (habsence : absence = .refused → ¬ omittable)
    (hget : ∀ has, get (draft has) = keep (has name.toList) a)
    (hset : ∀ has, set (draft has) a = draft fun n => n == name.toList || has n)
    (hreads : ∀ t, spelled t → Reads (reader depth) t a) :
    Fills depth draft ⟨name :: aliases, spelled, omittable⟩
      (field name aliases absence get set reader) := by
  refine ⟨rfl, habsence, fun has => ?_, fun has t ht => (hreads t ht).bind fun rest => ?_⟩
  · show (get (draft has)).isSome = has name.toList
    rw [hget]
    cases has name.toList <;> rfl
  · exact congrArg (fun d => Except.ok (d, rest)) (hset has)

theorem keep_of_has {α : Type} {has : Bool} (h : has = true) (a : α) : keep has a = some a :=
  if_pos h

/-- What is missing is absent. -/
theorem join_keep {α : Type} {has : Bool} {o : Option α} (h : has = true ∨ o = none) :
    (keep has o).join = o := by
  rcases h with rfl | rfl
  · rfl
  · cases has <;> rfl

/-! ## Conditions -/

/-- The draft of a condition row with these fields. -/
def conditionDraft (c : ConditionDefinition) (has : Text → Bool) : ConditionDraft where
  variableName := keep (has "variable_name".toList) c.variableName
  operator := keep (has "condition".toList) c.operator
  comparand := keep (has "condition_value".toList) (exportComparand c.comparand)
  port := keep (has "port_id".toList) c.port

theorem fills_condition (c : ConditionDefinition) (depth : Nat) :
    List.Forall₂ (Fills depth (conditionDraft c)) (conditionFields c) conditionShape.fields :=
  .cons (fills_field (fun _ h => h) (fun _ => rfl) (fun _ => rfl) fun _ h => SpellsText.reads h) <|
  .cons (fills_field (fun _ h => h) (fun _ => rfl) (fun _ => rfl) fun _ h => SpellsText.reads h) <|
  .cons (fills_field (fun _ h => h) (fun _ => rfl) (fun _ => rfl)
    fun _ h => reads_comparand h depth) <|
  .cons (fills_field (fun _ h => h) (fun _ => rfl) (fun _ => rfl) fun _ h => SpellsText.reads h)
  .nil

theorem names_condition : (conditionShape.fields.flatMap RecordField.names).Nodup := by
  decide

theorem reads_condition {c : ConditionDefinition} {t : Text} (h : SpellsCondition c t)
    (depth : Nat) : Reads (readCondition (depth + 1)) t (exportCondition c) := by
  obtain ⟨has, hcomplete, hreads⟩ := Json.reads_record names_condition (fills_condition c depth) h
  simp only [conditionFields, List.forall_mem_cons, or_false] at hcomplete
  obtain ⟨hname, hoperator, hcomparand, hport, -⟩ := hcomplete
  have hdraft : conditionDraft c has =
      ⟨some c.variableName, some c.operator, some (exportComparand c.comparand), some c.port⟩ := by
    rw [conditionDraft, ConditionDraft.mk.injEq]
    exact ⟨keep_of_has hname _, keep_of_has hoperator _, keep_of_has hcomparand _,
      keep_of_has hport _⟩
  rw [hdraft] at hreads
  exact hreads.bind fun _ => rfl

/-! ## Choices -/

/-- The draft of an option row with these fields. -/
def choiceDraft (c : ChoiceDefinition) (has : Text → Bool) : ChoiceDraft where
  label := keep (has "text".toList) c.label
  port := keep (has "port_id".toList) c.port

theorem fills_choice (c : ChoiceDefinition) (depth : Nat) :
    List.Forall₂ (Fills depth (choiceDraft c)) (choiceFields c) choiceShape.fields :=
  .cons (fills_field (fun _ h => h) (fun _ => rfl) (fun _ => rfl) fun _ h => SpellsText.reads h) <|
  .cons (fills_field (fun _ h => h) (fun _ => rfl) (fun _ => rfl) fun _ h => SpellsText.reads h)
  .nil

theorem names_choice : (choiceShape.fields.flatMap RecordField.names).Nodup := by
  decide

theorem reads_choice {c : ChoiceDefinition} {t : Text} (h : SpellsChoice c t) (depth : Nat) :
    Reads (readChoice (depth + 1)) t (exportChoice c) := by
  obtain ⟨has, hcomplete, hreads⟩ := Json.reads_record names_choice (fills_choice c depth) h
  simp only [choiceFields, List.forall_mem_cons, or_false] at hcomplete
  obtain ⟨hlabel, hport, -⟩ := hcomplete
  have hdraft : choiceDraft c has = ⟨some c.label, some c.port⟩ := by
    rw [choiceDraft, ChoiceDraft.mk.injEq]
    exact ⟨keep_of_has hlabel _, keep_of_has hport _⟩
  rw [hdraft] at hreads
  exact hreads.bind fun _ => rfl

/-! ## Nodes -/

/-- The draft of a node with these fields. -/
def nodeDraft (b : BlockDefinition) (has : Text → Bool) : NodeDraft where
  id := keep (has "id".toList) b.id
  typeName := keep (has "type".toList) b.typeName
  text := keep (has "text".toList) b.text
  variableName := keep (has "variable_name".toList) b.variableName
  conditions := keep (has "conditions".toList) (exportNode b).conditions
  choices := keep (has "choices".toList) (exportNode b).choices
  url := keep (has "url".toList) b.url

theorem fills_node (b : BlockDefinition) (depth : Nat) :
    List.Forall₂ (Fills (depth + 2) (nodeDraft b)) (nodeFields b) nodeShape.fields :=
  .cons (fills_field (fun _ h => h) (fun _ => rfl) (fun _ => rfl) fun _ h => reads_id h _) <|
  .cons (fills_field (fun _ h => h) (fun _ => rfl) (fun _ => rfl) fun _ h => SpellsText.reads h) <|
  .cons (fills_field nofun (fun _ => rfl) (fun _ => rfl) fun _ h => reads_nullableText h _) <|
  .cons (fills_field nofun (fun _ => rfl) (fun _ => rfl) fun _ h => reads_nullableText h _) <|
  .cons (fills_field nofun (fun _ => rfl) (fun _ => rfl)
    fun _ h => reads_nullableList (f := exportCondition)
      (fun _ _ hc => reads_condition hc depth) h) <|
  .cons (fills_field nofun (fun _ => rfl) (fun _ => rfl)
    fun _ h => reads_nullableList (f := exportChoice) (fun _ _ hc => reads_choice hc depth) h) <|
  .cons (fills_field nofun (fun _ => rfl) (fun _ => rfl) fun _ h => reads_nullableText h _)
  .nil

theorem names_node : (nodeShape.fields.flatMap RecordField.names).Nodup := by
  decide

theorem reads_node {b : BlockDefinition} {t : Text} (h : SpellsNode b t) (depth : Nat) :
    Reads (readNode (depth + 3)) t (exportNode b) := by
  obtain ⟨has, hcomplete, hreads⟩ := Json.reads_record names_node (fills_node b depth) h
  simp only [nodeFields, List.forall_mem_cons, or_false] at hcomplete
  obtain ⟨hid, htype, htext, hname, hconditions, hchoices, hurl, -⟩ := hcomplete
  have hid : (nodeDraft b has).id = some b.id := keep_of_has hid _
  have htype : (nodeDraft b has).typeName = some b.typeName := keep_of_has htype _
  have htext : (nodeDraft b has).text.join = b.text := join_keep htext
  have hname : (nodeDraft b has).variableName.join = b.variableName := join_keep hname
  have hconditions : (nodeDraft b has).conditions.join = (exportNode b).conditions :=
    join_keep (hconditions.imp_right fun hnone => by rw [exportNode, hnone]; rfl)
  have hchoices : (nodeDraft b has).choices.join = (exportNode b).choices :=
    join_keep (hchoices.imp_right fun hnone => by rw [exportNode, hnone]; rfl)
  have hurl : (nodeDraft b has).url.join = b.url := join_keep hurl
  refine hreads.bind fun rest => ?_
  dsimp only
  rw [hid, htype, htext, hname, hconditions, hchoices, hurl]
  rfl

/-! ## Links -/

/-- The draft of a link with these fields. -/
def linkDraft (l : LinkDefinition) (has : Text → Bool) : LinkDraft where
  source := keep (has "from".toList) l.source
  target := keep (has "to".toList) l.target
  sourcePort := keep (has "from_port".toList) l.sourcePort
  targetPort := keep (has "to_port".toList) l.targetPort

theorem fills_link (l : LinkDefinition) (depth : Nat) :
    List.Forall₂ (Fills depth (linkDraft l)) (linkFields l) linkShape.fields :=
  .cons (fills_field (fun _ h => h) (fun _ => rfl) (fun _ => rfl) fun _ h => reads_id h _) <|
  .cons (fills_field (fun _ h => h) (fun _ => rfl) (fun _ => rfl) fun _ h => reads_id h _) <|
  .cons (fills_field nofun (fun _ => rfl) (fun _ => rfl) fun _ h => reads_nullableText h _) <|
  .cons (fills_field nofun (fun _ => rfl) (fun _ => rfl) fun _ h => reads_nullableText h _)
  .nil

theorem names_link : (linkShape.fields.flatMap RecordField.names).Nodup := by
  decide

theorem reads_link {l : LinkDefinition} {t : Text} (h : SpellsLink l t) (depth : Nat) :
    Reads (readLink (depth + 1)) t (exportLink l) := by
  obtain ⟨has, hcomplete, hreads⟩ := Json.reads_record names_link (fills_link l depth) h
  simp only [linkFields, List.forall_mem_cons, or_false] at hcomplete
  obtain ⟨hsource, htarget, hsourcePort, htargetPort, -⟩ := hcomplete
  have hsource : (linkDraft l has).source = some l.source := keep_of_has hsource _
  have htarget : (linkDraft l has).target = some l.target := keep_of_has htarget _
  have hsourcePort : (linkDraft l has).sourcePort.join = l.sourcePort := join_keep hsourcePort
  have htargetPort : (linkDraft l has).targetPort.join = l.targetPort := join_keep htargetPort
  refine hreads.bind fun rest => ?_
  dsimp only
  rw [hsource, htarget, hsourcePort, htargetPort]
  rfl

/-! ## Graphs -/

/-- The draft of a graph with these fields. -/
def graphDraft (d : Definition) (has : Text → Bool) : GraphDraft where
  nodes := keep (has "node_data_array".toList) (exportGraph d).nodes
  links := keep (has "link_data_array".toList) (exportGraph d).links

theorem fills_graph (d : Definition) (depth : Nat) :
    List.Forall₂ (Fills (depth + 4) (graphDraft d)) (graphFields d) graphShape.fields :=
  .cons (fills_field (fun _ h => h) (fun _ => rfl) (fun _ => rfl)
    fun _ h => reads_spelled (f := exportNode) (fun _ _ hb => reads_node hb depth) h) <|
  .cons (fills_field nofun (fun _ => rfl) (fun _ => rfl)
    fun _ h => reads_spelled (f := exportLink) (fun _ _ hl => reads_link hl (depth + 2)) h)
  .nil

theorem names_graph : (graphShape.fields.flatMap RecordField.names).Nodup := by
  decide

theorem reads_graph {d : Definition} {t : Text} (h : SpellsRecord (graphFields d) t)
    (depth : Nat) : Reads (readGraph (depth + 5)) t (exportGraph d) := by
  obtain ⟨has, hcomplete, hreads⟩ := Json.reads_record names_graph (fills_graph d depth) h
  simp only [graphFields, List.forall_mem_cons, or_false] at hcomplete
  obtain ⟨hnodes, hlinks, -⟩ := hcomplete
  have hnodes : (graphDraft d has).nodes = some (exportGraph d).nodes := keep_of_has hnodes _
  have hlinks : (graphDraft d has).links.getD [] = (exportGraph d).links := by
    rcases hlinks with hhas | hnone
    · exact congrArg (Option.getD · []) (keep_of_has hhas _)
    · have hempty : (exportGraph d).links = [] := by rw [exportGraph, hnone]; rfl
      rw [graphDraft, hempty, keep]
      cases has "link_data_array".toList <;> rfl
  refine hreads.bind fun rest => ?_
  dsimp only
  rw [hnodes, hlinks]
  rfl

/-! ## Conversion -/

theorem mapM_map {α β ε : Type} {f : α → β} {g : β → Except ε α} {as : List α}
    (h : ∀ a ∈ as, g (f a) = .ok a) : (as.map f).mapM g = .ok as := by
  induction as with
  | nil => rfl
  | cons a as ih =>
      obtain ⟨ha, has⟩ := List.forall_mem_cons.mp h
      rw [List.map_cons, List.mapM_cons, ha, ih has]
      rfl

/-- What is spelled somewhere in a list. -/
theorem exists_spelled {α : Type} {spelled : α → Text → Prop} {as : List α} {t : Text}
    (h : SpellsList spelled as t) : ∀ a ∈ as, ∃ t, spelled a t := by
  obtain ⟨items, hitems, -⟩ := h
  induction hitems with
  | nil => exact fun a ha => absurd ha List.not_mem_nil
  | cons ha _ ih => exact List.forall_mem_cons.mpr ⟨⟨_, ha⟩, ih⟩

/-- A field that is not left out is spelled somewhere in its record. -/
theorem spelled_or_omittable {fields : List FieldSpelling} {t : Text}
    (h : SpellsRecord fields t) : ∀ f ∈ fields, (∃ t, f.spelled t) ∨ f.omittable := by
  obtain ⟨members, hholds, -⟩ := h
  intro f hf
  refine (hholds.complete f hf).imp_left ?_
  rintro ⟨m, hm, hname⟩
  exact ⟨m.value, hholds.values m hm f hf hname⟩

theorem toDefinition_condition {c : ConditionDefinition} {t : Text} (h : SpellsCondition c t)
    (node : Text) : (exportCondition c).toDefinition node = .ok c := by
  have hspelled := spelled_or_omittable h
  simp only [conditionFields, List.forall_mem_cons, or_false] at hspelled
  obtain ⟨-, -, ⟨v, hv⟩, -⟩ := hspelled
  have hcomparand : comparandOf node (exportComparand c.comparand) = .ok c.comparand := by
    cases hvalue : c.comparand with
    | text s => rfl
    | bool b => rfl
    | number x =>
        rw [hvalue] at hv
        rcases hv with ⟨i, hi, rfl, -⟩ | ⟨rfl, -⟩
        · rw [exportComparand, exportNumber_ofInt hi]
          rfl
        · rw [exportComparand, exportNumber_minusZero]
          rfl
  rw [Condition.toDefinition, exportCondition, hcomparand]
  rfl

theorem toDefinition_node {b : BlockDefinition} {t : Text} (h : SpellsNode b t) :
    (exportNode b).toDefinition = .ok b := by
  have hspelled := spelled_or_omittable h
  simp only [nodeFields, List.forall_mem_cons, or_false] at hspelled
  obtain ⟨-, -, -, -, hconditions, -⟩ := hspelled
  have hrows : convertRows (Condition.toDefinition b.id)
      (b.conditions.map (·.map exportCondition)) = .ok b.conditions := by
    cases hvalue : b.conditions with
    | none => rfl
    | some cs =>
        rw [hvalue] at hconditions
        rcases hconditions with ⟨_, hlist⟩ | hnone
        · have hall : (cs.map exportCondition).mapM (Condition.toDefinition b.id) = .ok cs := by
            refine mapM_map fun c hc => ?_
            obtain ⟨t, ht⟩ := exists_spelled hlist c hc
            exact toDefinition_condition ht b.id
          rw [Option.map_some, convertRows, hall]
          rfl
        · cases hnone
  have hchoices : (b.choices.map (·.map exportChoice)).map (·.map Choice.toDefinition) =
      b.choices := by
    cases b.choices with
    | none => rfl
    | some cs => exact congrArg some (List.map_map.trans (List.map_id' cs))
  rw [Node.toDefinition, exportNode, hrows]
  show Except.ok (BlockDefinition.mk _ _ _ _ _
    ((b.choices.map (·.map exportChoice)).map (·.map Choice.toDefinition)) _) = _
  rw [hchoices]

theorem toDefinition_graph {d : Definition} {t : Text} (h : SpellsRecord (graphFields d) t) :
    (exportGraph d).toDefinition = .ok d := by
  have hspelled := spelled_or_omittable h
  simp only [graphFields, List.forall_mem_cons, or_false] at hspelled
  obtain ⟨⟨_, hnodes⟩, -⟩ := hspelled
  have hblocks : (d.blocks.map exportNode).mapM Node.toDefinition = .ok d.blocks := by
    refine mapM_map fun b hb => ?_
    obtain ⟨t, ht⟩ := exists_spelled hnodes b hb
    exact toDefinition_node ht
  have hlinks : (d.links.map exportLink).map Link.toDefinition = d.links := by
    rw [List.map_map]
    exact List.map_id' _
  rw [Graph.toDefinition, exportGraph, hblocks]
  show Except.ok (Definition.mk d.blocks ((d.links.map exportLink).map Link.toDefinition)) = _
  rw [hlinks]

/-! ## Whole exports -/

/-- **Every text that spells a definition is imported as that definition,** whichever way it is
written. -/
theorem import_spelled {d : Definition} {t : Text} (h : Spells d t) :
    importDefinition t = .ok d := by
  obtain ⟨graph, hgraph, front, back, hfront, hback, rfl⟩ := h
  have hends : Json.Ends back := by
    rw [← List.append_nil back]
    exact Json.Ends.blanks (fun _ hc => nomatch hc) hback
  have hread := (reads_graph hgraph 122).eq front back hfront hends
  have hrest : Json.skipBlanks back = [] := by
    rw [← List.append_nil back, Json.skipBlanks_blanks hback]
    rfl
  have hparse : Graph.parse (front ++ (graph ++ back)) = .ok (exportGraph d) := by
    show (readGraph 127 _ >>= _).mapError _ = _
    rw [hread]
    show (if Json.skipBlanks back = [] then _ else _ : Except Json.Fault Graph).mapError _ = _
    rw [if_pos hrest]
    rfl
  rw [importDefinition, hparse]
  exact toDefinition_graph hgraph

/-- A node without rows, with a number as its identifier. -/
def endBlock : BlockDefinition :=
  ⟨['7'], ['e', 'n', 'd'], none, none, none, none, none⟩

/-- The name of its type, with an escape. -/
def endType : Text :=
  "\"\\u0065nd\"".toList

/-- That node as an export may have it. -/
def endNode : Text :=
  "\x7b\"type\":\"\\u0065nd\",\"key\":7\x7d".toList

/-- The list of that node. -/
def endNodes : Text :=
  "[\x7b\"type\":\"\\u0065nd\",\"key\":7\x7d]".toList

/-- A value that no export needs. -/
def zoom : Text :=
  "[\x7b \x7d]".toList

/-- An export of that node and of no links. -/
def endExport : Text :=
  " \x7b\"zoom\":[\x7b \x7d],\"nodes\":[\x7b\"type\":\"\\u0065nd\",\"key\":7\x7d]\x7d".toList

theorem blanks_space : Blanks [' '] := by
  simp [Blanks, Json.isBlank]

theorem spells_endType : SpellsText ['e', 'n', 'd'] endType := by
  have hhex : SpellsHex 'e'.toNat ['0', '0', '6', '5'] :=
    ⟨0, 0, 6, 5, '0', '0', '6', '5', ⟨by decide, .inl rfl⟩, ⟨by decide, .inl rfl⟩,
      ⟨by decide, .inl rfl⟩, ⟨by decide, .inl rfl⟩, rfl, rfl⟩
  have hn : SpellsChar 'n' ['n'] := .plain (by decide) (by decide) (by decide)
  have hd : SpellsChar 'd' ['d'] := .plain (by decide) (by decide) (by decide)
  exact ⟨_, .cons (.hex hhex) (.cons hn (.cons hd .nil)), rfl⟩

theorem spells_endNode : SpellsNode endBlock endNode := by
  have hid : SpellsId ['7'] ['7'] := .inr ⟨7, ⟨by decide, by decide⟩, rfl, rfl⟩
  refine ⟨[⟨"type".toList, printText "type".toList, endType⟩,
    ⟨"key".toList, printText "key".toList, ['7']⟩], ⟨?_, ?_, ?_, ?_, ?_⟩, _,
    .parts (.cons ⟨_, _, padded_self _, padded_self _, rfl⟩
      (.last ⟨_, _, padded_self _, padded_self _, rfl⟩)), rfl⟩
  · simp [spellsText_printText]
  · simp [nodeFields, FieldSpelling.Named, endBlock, spells_endType, hid]
  · simp [nodeFields, FieldSpelling.Named]
  · simp [nodeFields, FieldSpelling.Named]
  · simp [nodeFields, FieldSpelling.Named, endBlock]

theorem isValue_zoom : IsValue zoom := by
  have hobject : IsValue "\x7b \x7d".toList :=
    .object ⟨[' '], .empty blanks_space, rfl⟩ nofun nofun
  exact .list ⟨_, .parts (.last (padded_self _)), rfl⟩ (List.forall_mem_singleton.mpr hobject)

theorem spells_endExport : Spells ⟨[endBlock], []⟩ endExport := by
  have hnodes : SpellsList SpellsNode [endBlock] endNodes :=
    ⟨[_], .cons spells_endNode .nil, _, .parts (.last (padded_self _)), rfl⟩
  refine ⟨endExport.tail, ⟨[⟨"zoom".toList, printText "zoom".toList, zoom⟩,
    ⟨"nodes".toList, printText "nodes".toList, endNodes⟩], ⟨?_, ?_, ?_, ?_, ?_⟩, _,
    .parts (.cons ⟨_, _, padded_self _, padded_self _, rfl⟩
      (.last ⟨_, _, padded_self _, padded_self _, rfl⟩)), rfl⟩,
    [' '], [], blanks_space, blanks_nil, rfl⟩
  · simp [spellsText_printText]
  · simp [graphFields, FieldSpelling.Named, hnodes]
  · simp [graphFields, FieldSpelling.Named, isValue_zoom]
  · simp [graphFields, FieldSpelling.Named]
  · simp [graphFields, FieldSpelling.Named]

theorem import_endExport :
    Spells ⟨[endBlock], []⟩ endExport ∧ importDefinition endExport = .ok ⟨[endBlock], []⟩ :=
  ⟨spells_endExport, import_spelled spells_endExport⟩

end Dialogue.Editor
