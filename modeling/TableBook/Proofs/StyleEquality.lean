import TableBook.Style

namespace TableBook

/-- Equality as numbers: the two zeros are equal, and what is no number is not
equal to anything. -/
def Binary64.equal (x y : Binary64) : Bool :=
  !x.isNan && !y.isNan && decide (x.position = y.position)

theorem Binary64.equal_self (x : Binary64) : x.equal x = !x.isNan := by
  simp [equal]

def Condition.equal : Condition → Condition → Bool
  | .greaterThan x, .greaterThan y => x.equal y
  | .lessThan x, .lessThan y => x.equal y
  | .between x z, .between y w => x.equal y && z.equal w
  | _, _ => false

theorem Condition.equal_self (condition : Condition) :
    condition.equal condition = !condition.hasNan := by
  cases condition <;> simp [equal, hasNan, Binary64.equal_self]

def Font.equal (f g : Font) : Bool :=
  { f with size := none } == { g with size := none } &&
    match f.size, g.size with
    | some x, some y => x.equal y
    | none, none => true
    | _, _ => false

theorem Font.equal_self (f : Font) :
    f.equal f = !(f.size.map Binary64.isNan).getD false := by
  cases hsize : f.size <;> simp [equal, hsize, Binary64.equal_self]

namespace Style

mutual

def equal : Style → Style → Bool
  | ⟨font, fill, border, alignment, numberFormat, locked, rules⟩,
    ⟨font', fill', border', alignment', numberFormat', locked', rules'⟩ =>
      font.equal font' && fill == fill' && border == border' && alignment == alignment' &&
        numberFormat == numberFormat' && locked == locked' && equalRules rules rules'

def equalRules : List (Condition × Style) → List (Condition × Style) → Bool
  | [], [] => true
  | (condition, s) :: rules, (condition', t) :: rules' =>
      condition.equal condition' && equal s t && equalRules rules rules'
  | _, _ => false

end

mutual

theorem equal_self : ∀ s : Style, s.equal s = !s.hasNan
  | ⟨font, _, _, _, _, _, rules⟩ => by
      simp [equal, hasNan, Font.equal_self, equalRules_self rules]

theorem equalRules_self : ∀ rules, equalRules rules rules = !hasNanRules rules
  | [] => rfl
  | (condition, s) :: rules => by
      simp [equalRules, hasNanRules, Condition.equal_self, equal_self s, equalRules_self rules]

end

/-- The empty style holds no number, so here equality is that of the bits. -/
theorem equal_empty (s : Style) : s.equal {} = s.isEmpty := by
  obtain ⟨⟨name, size, bold, italic, underline, color⟩, fill, border, alignment, numberFormat,
    locked, rules⟩ := s
  rw [Bool.eq_iff_iff]
  cases size <;> cases rules <;>
    simp [equal, equalRules, Font.equal, isEmpty, and_assoc]

end Style

end TableBook
