import Dialogue.Editor.Graph
import Dialogue.Proofs.Traversal

/-!
# What becomes of an export

An export becomes a definition unless one of its condition rows has a comparand that is null, a list
or an object, whatever the type of its node. Which of such rows the import complains about is told
by the rows of all nodes in one line (`Graph.rows`): it is the first one. If there is none, the
definition has all that the export has, part by part and in the same order (`Graph.Becomes`), and
what is absent stays absent.
-/

namespace Dialogue.Editor

variable {e : ImportError}

/-! ## Comparands that fit no definition -/

/-- Neither a text nor a number nor a truth value. -/
inductive Unfit : Json → Prop
  | null : Unfit .null
  | list (items : List Json) : Unfit (.list items)
  | object (members : List (Text × Json)) : Unfit (.object members)

/-- The condition rows of all nodes, each with its node. -/
def Graph.rows (g : Graph) : List (Node × Condition) :=
  g.nodes.flatMap fun n => (n.conditions.getD []).map fun row => (n, row)

/-! ## What a definition keeps -/

/-- A comparand stands for the same value. -/
inductive ComparandBecomes : Json → Value → Prop
  | text (s : Text) : ComparandBecomes (.text s) (.text s)
  | bool (b : Bool) : ComparandBecomes (.bool b) (.bool b)
  | number (n : Json.Number) : ComparandBecomes (.number n) (.number n.nearest)

/-- A condition row says the same. -/
structure Condition.Becomes (c : Condition) (d : ConditionDefinition) : Prop where
  variableName : d.variableName = c.variableName
  operator : d.operator = c.operator
  comparand : ComparandBecomes c.comparand d.comparand
  port : d.port = c.port

/-- An option row says the same. -/
structure Choice.Becomes (c : Choice) (d : ChoiceDefinition) : Prop where
  label : d.label = c.label
  port : d.port = c.port

/-- A node says the same. Its rows are as many and in the same order, and there is no list of rows
where there was none. -/
structure Node.Becomes (n : Node) (b : BlockDefinition) : Prop where
  id : b.id = n.id
  typeName : b.typeName = n.typeName
  text : b.text = n.text
  variableName : b.variableName = n.variableName
  conditions : Option.Rel (List.Forall₂ Condition.Becomes) n.conditions b.conditions
  choices : Option.Rel (List.Forall₂ Choice.Becomes) n.choices b.choices
  url : b.url = n.url

/-- A link says the same. -/
structure Link.Becomes (l : Link) (d : LinkDefinition) : Prop where
  source : d.source = l.source
  target : d.target = l.target
  sourcePort : d.sourcePort = l.sourcePort
  targetPort : d.targetPort = l.targetPort

/-- Nodes and links say the same, as many of them and in the same order. -/
structure Graph.Becomes (g : Graph) (d : Definition) : Prop where
  nodes : List.Forall₂ Node.Becomes g.nodes d.blocks
  links : List.Forall₂ Link.Becomes g.links d.links

/-! ## Rows -/

theorem comparandOf_of_fits {j : Json} (node : Text) (h : ¬ Unfit j) :
    ∃ v, comparandOf node j = .ok v ∧ ComparandBecomes j v := by
  cases j with
  | text s => exact ⟨_, rfl, .text s⟩
  | bool b => exact ⟨_, rfl, .bool b⟩
  | number n => exact ⟨_, rfl, .number n⟩
  | null => exact absurd .null h
  | list items => exact absurd (.list items) h
  | object members => exact absurd (.object members) h

theorem comparandOf_of_unfit {j : Json} (node : Text) (h : Unfit j) :
    comparandOf node j = .error (.badComparand node j) := by
  cases h <;> rfl

theorem condition_of_fits {c : Condition} (node : Text) (h : ¬ Unfit c.comparand) :
    ∃ d, c.toDefinition node = .ok d ∧ c.Becomes d := by
  obtain ⟨v, hv, hbecomes⟩ := comparandOf_of_fits node h
  refine ⟨⟨c.variableName, c.operator, v, c.port⟩, ?_, rfl, rfl, hbecomes, rfl⟩
  rw [Condition.toDefinition, hv]
  rfl

theorem condition_of_unfit {c : Condition} (node : Text) (h : Unfit c.comparand) :
    c.toDefinition node = .error (.badComparand node c.comparand) := by
  rw [Condition.toDefinition, comparandOf_of_unfit node h]
  rfl

/-- A row fails if its comparand is unfit, and says so. -/
theorem condition_error_iff {c : Condition} {node : Text} :
    c.toDefinition node = .error e ↔ Unfit c.comparand ∧ e = .badComparand node c.comparand := by
  by_cases h : Unfit c.comparand
  · rw [condition_of_unfit node h, Except.error.injEq]
    exact ⟨fun he => ⟨h, he.symm⟩, fun he => he.2.symm⟩
  · obtain ⟨d, hd, -⟩ := condition_of_fits node h
    rw [hd]
    exact iff_of_false nofun fun he => h he.1

/-! ## Nodes -/

theorem convertRows_error_iff {α β ε : Type} {g : α → Except ε β} {rows : Option (List α)} {e : ε} :
    convertRows g rows = .error e ↔ (rows.getD []).mapM g = .error e := by
  cases rows with
  | none => exact iff_of_false nofun nofun
  | some rows =>
      rw [convertRows, Option.getD_some]
      cases rows.mapM g <;> simp [bind, Except.bind, pure, Except.pure]

/-- A node fails with its first unfit row. -/
theorem node_error_iff {n : Node} :
    n.toDefinition = .error e ↔
      ∃ row, IsFirst (fun row : Condition => Unfit row.comparand) (n.conditions.getD []) row
        ∧ e = .badComparand n.id row.comparand := by
  have hrows : n.toDefinition = .error e ↔
      convertRows (Condition.toDefinition n.id) n.conditions = .error e := by
    rw [Node.toDefinition]
    cases convertRows (Condition.toDefinition n.id) n.conditions <;>
      simp [bind, Except.bind, pure, Except.pure]
  have hunfit : (fun row : Condition => ∃ e, row.toDefinition n.id = .error e) =
      fun row => Unfit row.comparand := by
    funext row
    simp [condition_error_iff]
  rw [hrows, convertRows_error_iff, mapM_eq_error_iff, hunfit]
  refine exists_congr fun row => and_congr_right fun hrow => ?_
  obtain ⟨before, after, -, hbad, -⟩ := hrow
  rw [condition_error_iff, and_iff_right hbad]

theorem node_of_fits {n : Node} (h : ∀ row ∈ n.conditions.getD [], ¬ Unfit row.comparand) :
    ∃ b, n.toDefinition = .ok b ∧ n.Becomes b := by
  have hconditions : ∃ conditions,
      convertRows (Condition.toDefinition n.id) n.conditions = .ok conditions
        ∧ Option.Rel (List.Forall₂ Condition.Becomes) n.conditions conditions := by
    cases hrows : n.conditions with
    | none => exact ⟨none, rfl, .none⟩
    | some rows =>
        rw [hrows, Option.getD_some] at h
        have hrow : ∀ row ∈ rows, ∃ d, Condition.toDefinition n.id row = .ok d ∧ row.Becomes d :=
          fun row hrow => condition_of_fits n.id (h row hrow)
        obtain ⟨ds, hds, hall⟩ := mapM_of_forall hrow
        refine ⟨some ds, ?_, .some hall⟩
        rw [convertRows, hds]
        rfl
  have hchoices : Option.Rel (List.Forall₂ Choice.Becomes) n.choices
      (n.choices.map (·.map Choice.toDefinition)) := by
    cases n.choices with
    | none => exact .none
    | some rows =>
        exact .some (List.forall₂_map_right_iff.mpr (List.forall₂_same.mpr fun c _ => ⟨rfl, rfl⟩))
  obtain ⟨conditions, hok, hbecomes⟩ := hconditions
  refine ⟨⟨n.id, n.typeName, n.text, n.variableName, conditions,
    n.choices.map (·.map Choice.toDefinition), n.url⟩, ?_, rfl, rfl, rfl, rfl, hbecomes,
    hchoices, rfl⟩
  rw [Node.toDefinition, hok]
  rfl

/-! ## Graphs -/

theorem graph_error_iff {g : Graph} :
    g.toDefinition = .error e ↔ g.nodes.mapM Node.toDefinition = .error e := by
  rw [Graph.toDefinition]
  cases g.nodes.mapM Node.toDefinition <;> simp [bind, Except.bind, pure, Except.pure]

theorem isFirst_rows {g : Graph} {n : Node} {row : Condition} :
    IsFirst (fun r => Unfit r.2.comparand) g.rows (n, row) ↔
      IsFirst (fun n : Node => ∃ row ∈ n.conditions.getD [], Unfit row.comparand) g.nodes n
        ∧ IsFirst (fun row : Condition => Unfit row.comparand) (n.conditions.getD []) row := by
  have hunfit : (fun n : Node => ∃ r ∈ (n.conditions.getD []).map fun row => (n, row),
      Unfit r.2.comparand) = fun n => ∃ row ∈ n.conditions.getD [], Unfit row.comparand := by
    funext n
    simp
  rw [Graph.rows, isFirst_flatMap, hunfit]
  simp only [isFirst_map, Prod.mk.injEq]
  constructor
  · rintro ⟨_, hn, _, hrow, rfl, rfl⟩
    exact ⟨hn, hrow⟩
  · rintro ⟨hn, hrow⟩
    exact ⟨n, hn, row, hrow, rfl, rfl⟩

/-- A graph fails with the first unfit row of all its nodes. -/
theorem graph_error_iff_first {g : Graph} :
    g.toDefinition = .error e ↔
      ∃ n row, IsFirst (fun r => Unfit r.2.comparand) g.rows (n, row)
        ∧ e = .badComparand n.id row.comparand := by
  have hunfit : (fun n : Node => ∃ e, n.toDefinition = .error e) =
      fun n => ∃ row ∈ n.conditions.getD [], Unfit row.comparand := by
    funext n
    simp only [node_error_iff, ← exists_isFirst_iff]
    simp
  rw [graph_error_iff, mapM_eq_error_iff, hunfit]
  simp only [isFirst_rows, node_error_iff, and_assoc, exists_and_left]

theorem graph_of_fits {g : Graph} (h : ∀ r ∈ g.rows, ¬ Unfit r.2.comparand) :
    ∃ d, g.toDefinition = .ok d ∧ g.Becomes d := by
  have hnode : ∀ n ∈ g.nodes, ∃ b, n.toDefinition = .ok b ∧ n.Becomes b := fun n hn =>
    node_of_fits fun row hrow =>
      h (n, row) (List.mem_flatMap.mpr ⟨n, hn, List.mem_map_of_mem hrow⟩)
  obtain ⟨bs, hbs, hall⟩ := mapM_of_forall hnode
  refine ⟨⟨bs, g.links.map Link.toDefinition⟩, ?_, hall, ?_⟩
  · rw [Graph.toDefinition, hbs]
    rfl
  · exact List.forall₂_map_right_iff.mpr (List.forall₂_same.mpr fun l _ => ⟨rfl, rfl, rfl, rfl⟩)

/-- **An export with an unfit comparand is refused with the first of them, and any other becomes a
definition that says the same.** -/
theorem conversion_outcome (g : Graph) :
    ((∃ e, g.toDefinition = .error e) ↔ ∃ r ∈ g.rows, Unfit r.2.comparand)
      ∧ (∀ n row, IsFirst (fun r => Unfit r.2.comparand) g.rows (n, row) →
          g.toDefinition = .error (.badComparand n.id row.comparand))
      ∧ ((∀ r ∈ g.rows, ¬ Unfit r.2.comparand) → ∃ d, g.toDefinition = .ok d ∧ g.Becomes d) := by
  refine ⟨?_, fun n row hfirst => graph_error_iff_first.mpr ⟨n, row, hfirst, rfl⟩, graph_of_fits⟩
  rw [← exists_isFirst_iff, Prod.exists]
  constructor
  · rintro ⟨e, he⟩
    obtain ⟨n, row, hfirst, -⟩ := graph_error_iff_first.mp he
    exact ⟨n, row, hfirst⟩
  · rintro ⟨n, row, hfirst⟩
    exact ⟨_, graph_error_iff_first.mpr ⟨n, row, hfirst, rfl⟩⟩

/-- Of a null and a list further down the null is complained about; without the two, an empty list
of rows beside an absent one is no trouble. -/
theorem null_before_list :
    let plain : Node := ⟨"1".toList, "message".toList, none, none, none, none, none⟩
    let empty : Node := ⟨"2".toList, "condition".toList, none, none, some [], none, none⟩
    let mixed : Node := ⟨"3".toList, "message".toList, none, none,
      some [⟨[], [], .bool true, []⟩, ⟨[], [], .null, []⟩, ⟨[], [], .list [], []⟩], none, none⟩
    Graph.toDefinition ⟨[plain, empty, mixed], []⟩ = .error (.badComparand "3".toList .null)
      ∧ ∃ d, Graph.toDefinition ⟨[plain, empty], []⟩ = .ok d
        ∧ Graph.Becomes ⟨[plain, empty], []⟩ d := by
  intro plain empty mixed
  have hfirst : IsFirst (fun r : Node × Condition => Unfit r.2.comparand)
      (Graph.rows ⟨[plain, empty, mixed], []⟩) (mixed, ⟨[], [], .null, []⟩) :=
    ⟨[(mixed, ⟨[], [], .bool true, []⟩)], [(mixed, ⟨[], [], .list [], []⟩)], rfl, .null,
      List.forall_mem_singleton.mpr nofun⟩
  exact ⟨(conversion_outcome ⟨[plain, empty, mixed], []⟩).2.1 _ _ hfirst,
    (conversion_outcome ⟨[plain, empty], []⟩).2.2 nofun⟩

end Dialogue.Editor
