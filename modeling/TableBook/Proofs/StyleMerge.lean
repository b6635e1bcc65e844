import TableBook.Proofs.StyleEquality

/-!
Merging styles, field by field. A style is known by its fields, the edges its
border has, and its rules; merging lets the later style win in each field, keeps
the edges of both, and puts the rules one after the other. Its laws come from
those of the three.
-/

namespace TableBook

attribute [ext] Font Edge Border Alignment Style

inductive Side
  | left
  | right
  | top
  | bottom
deriving DecidableEq, Repr

/-- What a style may set or leave open. An edge counts as two, its line and its
color. -/
inductive StyleField : Type → Type
  | fontName : StyleField String
  | fontSize : StyleField Binary64
  | bold : StyleField Bool
  | italic : StyleField Bool
  | underline : StyleField Underline
  | fontColor : StyleField Color
  | fill : StyleField Color
  | edgeLine (side : Side) : StyleField Line
  | edgeColor (side : Side) : StyleField Color
  | horizontal : StyleField Horizontal
  | vertical : StyleField Vertical
  | wrap : StyleField Bool
  | numberFormat : StyleField String
  | locked : StyleField Bool

namespace Edge

variable (base top : Option Edge)

theorem line_merge? :
    (merge? base top).bind line = (top.bind line).or (base.bind line) := by
  cases base <;> cases top <;> simp [merge?, merge]

theorem color_merge? :
    (merge? base top).bind color = (top.bind color).or (base.bind color) := by
  cases base <;> cases top <;> simp [merge?, merge]

theorem isSome_merge? : (merge? base top).isSome = (base.isSome || top.isSome) := by
  cases base <;> cases top <;> rfl

theorem ext_option {e f : Option Edge} (hsome : e.isSome = f.isSome)
    (hline : e.bind line = f.bind line) (hcolor : e.bind color = f.bind color) : e = f := by
  cases e with
  | none => exact (Option.isNone_iff_eq_none.mp (by simpa using hsome.symm)).symm
  | some e =>
      obtain ⟨f, rfl⟩ := Option.isSome_iff_exists.mp hsome.symm
      exact congrArg some (Edge.ext hline hcolor)

end Edge

namespace Border

def edge (b : Border) : Side → Option Edge
  | .left => b.left
  | .right => b.right
  | .top => b.top
  | .bottom => b.bottom

theorem edge_merge (base top : Border) (side : Side) :
    (base.merge top).edge side = Edge.merge? (base.edge side) (top.edge side) := by
  cases side <;> rfl

end Border

namespace StyleField

def get {α : Type} : StyleField α → Style → Option α
  | fontName, s => s.font.name
  | fontSize, s => s.font.size
  | bold, s => s.font.bold
  | italic, s => s.font.italic
  | underline, s => s.font.underline
  | fontColor, s => s.font.color
  | fill, s => s.fill
  | edgeLine side, s => (s.border.edge side).bind (·.line)
  | edgeColor side, s => (s.border.edge side).bind (·.color)
  | horizontal, s => s.alignment.horizontal
  | vertical, s => s.alignment.vertical
  | wrap, s => s.alignment.wrap
  | numberFormat, s => s.numberFormat
  | locked, s => s.locked

theorem get_merge {α : Type} (field : StyleField α) (base top : Style) :
    field.get (base.merge top) = (field.get top).or (field.get base) := by
  cases field with
  | edgeLine side =>
      change ((base.border.merge top.border).edge side).bind Edge.line = _
      rw [Border.edge_merge, Edge.line_merge?]
      rfl
  | edgeColor side =>
      change ((base.border.merge top.border).edge side).bind Edge.color = _
      rw [Border.edge_merge, Edge.color_merge?]
      rfl
  | _ => rfl

end StyleField

namespace Style

def hasEdge (s : Style) (side : Side) : Bool := (s.border.edge side).isSome

theorem hasEdge_merge (base top : Style) (side : Side) :
    (base.merge top).hasEdge side = (base.hasEdge side || top.hasEdge side) := by
  change ((base.border.merge top.border).edge side).isSome = _
  rw [Border.edge_merge, Edge.isSome_merge?]
  rfl

/-- No field is missing: styles that agree in all of them, in their edges and in
their rules are the same. -/
theorem ext_fields {s t : Style}
    (hfields : ∀ {α : Type} (field : StyleField α), field.get s = field.get t)
    (hedges : ∀ side, s.hasEdge side = t.hasEdge side) (hrules : s.rules = t.rules) : s = t := by
  have hedge (side : Side) : s.border.edge side = t.border.edge side :=
    Edge.ext_option (hedges side) (hfields (.edgeLine side)) (hfields (.edgeColor side))
  apply Style.ext
  case font =>
    exact Font.ext (hfields .fontName) (hfields .fontSize) (hfields .bold) (hfields .italic)
      (hfields .underline) (hfields .fontColor)
  case fill => exact hfields .fill
  case border => exact Border.ext (hedge .left) (hedge .right) (hedge .top) (hedge .bottom)
  case alignment =>
    exact Alignment.ext (hfields .horizontal) (hfields .vertical) (hfields .wrap)
  case numberFormat => exact hfields .numberFormat
  case locked => exact hfields .locked
  case rules => exact hrules

theorem merge_assoc (a b c : Style) : (a.merge b).merge c = a.merge (b.merge c) := by
  apply ext_fields
  · intro α field
    rw [field.get_merge, field.get_merge, field.get_merge, field.get_merge, Option.or_assoc]
  · intro side
    rw [hasEdge_merge, hasEdge_merge, hasEdge_merge, hasEdge_merge, Bool.or_assoc]
  · exact List.append_assoc ..

theorem foldl_merge (base : Style) (layers : List Style) :
    layers.foldl merge base = base.merge (layers.foldl merge {}) := by
  induction layers generalizing base with
  | nil => exact (merge_empty base).symm
  | cons layer rest ih =>
      rw [List.foldl_cons, List.foldl_cons, ih, ih (({} : Style).merge layer)]
      rw [empty_merge, merge_assoc]

/-- Conditional rules add up, those of later layers at the end. -/
theorem rules_foldl_merge (base : Style) (layers : List Style) :
    (layers.foldl merge base).rules = base.rules ++ layers.flatMap rules := by
  induction layers generalizing base with
  | nil => exact (List.append_nil _).symm
  | cons layer rest ih =>
      rw [List.foldl_cons, ih, List.flatMap_cons, ← List.append_assoc]
      rfl

theorem merge_self_iff (s : Style) : s.merge s = s ↔ s.rules = [] := by
  constructor
  · intro h
    have hrules : s.rules ++ s.rules = s.rules := congrArg rules h
    exact List.append_left_eq_self.mp hrules
  · intro hnone
    apply ext_fields
    · intro α field
      rw [field.get_merge, Option.or_self]
    · intro side
      rw [hasEdge_merge, Bool.or_self]
    · change s.rules ++ s.rules = s.rules
      rw [hnone, List.append_nil]

theorem length_eq_of_equalRules {rs ss : List Rule} (h : equalRules rs ss = true) :
    rs.length = ss.length := by
  induction rs generalizing ss with
  | nil =>
      cases ss with
      | nil => rfl
      | cons => cases h
  | cons r rs ih =>
      cases ss with
      | nil => cases h
      | cons s ss =>
          rw [equalRules, Bool.and_eq_true] at h
          rw [List.length_cons, List.length_cons, ih h.2]

theorem length_rules_of_equal {s t : Style} (h : s.equal t = true) :
    s.rules.length = t.rules.length := by
  cases s
  cases t
  rw [equal, Bool.and_eq_true] at h
  exact length_eq_of_equalRules h.2

/-- By value a style is what it gives merged onto itself if besides having no rules
it holds nothing but numbers. -/
theorem equal_merge_self_iff (s : Style) :
    (s.merge s).equal s = true ↔ s.rules = [] ∧ s.hasNan = false := by
  constructor
  · intro h
    have hlength : (s.rules ++ s.rules).length = s.rules.length := length_rules_of_equal h
    rw [List.length_append] at hlength
    have hnone : s.rules = [] := List.eq_nil_of_length_eq_zero (by omega)
    rw [(merge_self_iff s).mpr hnone, equal_self, Bool.not_eq_true'] at h
    exact ⟨hnone, h⟩
  · rintro ⟨hnone, hnan⟩
    rw [(merge_self_iff s).mpr hnone, equal_self, hnan]
    rfl

/-- Merging is a monoid in which the later style wins field by field. An edge is there
if either style has one, and rules add up, so only a style without rules merges into
itself. -/
theorem merge_monoid (a b c : Style) :
    (a.merge b).merge c = a.merge (b.merge c) ∧ ({} : Style).merge a = a ∧ a.merge {} = a ∧
      (∀ {α : Type} (field : StyleField α),
        field.get (a.merge b) = (field.get b).or (field.get a)) ∧
      (∀ side, (a.merge b).hasEdge side = (a.hasEdge side || b.hasEdge side)) ∧
      (a.merge b).rules = a.rules ++ b.rules ∧
      (a.merge a = a ↔ a.rules = []) ∧
      ((a.merge a).equal a = true ↔ a.rules = [] ∧ a.hasNan = false) := by
  refine ⟨merge_assoc a b c, empty_merge a, merge_empty a, ?_, ?_, rfl, ?_, ?_⟩
  · intro α field
    exact field.get_merge a b
  · intro side
    exact hasEdge_merge a b side
  · exact merge_self_iff a
  · exact equal_merge_self_iff a

end Style

end TableBook
