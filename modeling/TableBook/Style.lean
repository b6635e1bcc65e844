import TableBook.Color
import TableBook.Number.Binary64

/-!
Cell styles as fragments: every field may be unset, and merging lays a later
fragment on an earlier one field by field. Conditional rules add up instead.
-/

namespace TableBook

inductive Underline
  | none
  | single
  | double
deriving DecidableEq, Repr

def Underline.keyword : Underline → String
  | .none => "none"
  | .single => "single"
  | .double => "double"

def Underline.ofKeyword? : String → Option Underline
  | "none" => some .none
  | "single" => some .single
  | "double" => some .double
  | _ => Option.none

inductive Horizontal
  | general
  | left
  | center
  | right
  | justify
deriving DecidableEq, Repr

def Horizontal.keyword : Horizontal → String
  | .general => "general"
  | .left => "left"
  | .center => "center"
  | .right => "right"
  | .justify => "justify"

/-- Any other word means general alignment. -/
def Horizontal.ofKeyword : String → Horizontal
  | "left" => .left
  | "center" => .center
  | "right" => .right
  | "justify" => .justify
  | _ => .general

inductive Vertical
  | top
  | center
  | bottom
deriving DecidableEq, Repr

def Vertical.keyword : Vertical → String
  | .top => "top"
  | .center => "center"
  | .bottom => "bottom"

/-- Any other word means the bottom. -/
def Vertical.ofKeyword : String → Vertical
  | "top" => .top
  | "middle" => .center
  | "center" => .center
  | _ => .bottom

inductive Line
  | none
  | thin
  | medium
  | thick
deriving DecidableEq, Repr

def Line.keyword : Line → String
  | .none => "none"
  | .thin => "thin"
  | .medium => "medium"
  | .thick => "thick"

def Line.ofKeyword? : String → Option Line
  | "none" => some .none
  | "thin" => some .thin
  | "medium" => some .medium
  | "thick" => some .thick
  | _ => Option.none

structure Font where
  name : Option String := none
  size : Option Binary64 := none
  bold : Option Bool := none
  italic : Option Bool := none
  underline : Option Underline := none
  color : Option Color := none
deriving DecidableEq, Repr

structure Edge where
  line : Option Line := none
  color : Option Color := none
deriving DecidableEq, Repr

structure Border where
  left : Option Edge := none
  right : Option Edge := none
  top : Option Edge := none
  bottom : Option Edge := none
deriving DecidableEq, Repr

def Border.all (edge : Edge) : Border := ⟨some edge, some edge, some edge, some edge⟩

structure Alignment where
  horizontal : Option Horizontal := none
  vertical : Option Vertical := none
  wrap : Option Bool := none
deriving DecidableEq, Repr

/-- A comparison of the number of a cell with one threshold or two. -/
inductive Condition
  | greaterThan (threshold : Binary64)
  | lessThan (threshold : Binary64)
  | between (low high : Binary64)
deriving DecidableEq, Repr

def Condition.keyword : Condition → String
  | .greaterThan _ => "greaterThan"
  | .lessThan _ => "lessThan"
  | .between .. => "between"

/-- The threshold, or the lower one of two. -/
def Condition.first : Condition → Binary64
  | .greaterThan threshold => threshold
  | .lessThan threshold => threshold
  | .between low _ => low

/-- The upper one of two thresholds. -/
def Condition.second? : Condition → Option Binary64
  | .between _ high => some high
  | _ => none

/-- Both bounds belong; they may be given in any order. -/
def Condition.within (a b : Binary64) : Condition := .between (a.smaller b) (a.greater b)

def Condition.holds (x : Binary64) : Condition → Bool
  | .greaterThan threshold => threshold.less x
  | .lessThan threshold => x.less threshold
  | .between low high => low.atMost x && x.atMost high

def Condition.hasNan : Condition → Bool
  | .greaterThan threshold => threshold.isNan
  | .lessThan threshold => threshold.isNan
  | .between low high => low.isNan || high.isNan

structure Style where
  font : Font := {}
  fill : Option Color := none
  border : Border := {}
  alignment : Alignment := {}
  numberFormat : Option String := none
  locked : Option Bool := none
  rules : List (Condition × Style) := []
deriving Repr

/-- A condition, and the fragment a cell takes on while it holds. -/
abbrev Rule := Condition × Style

mutual

def Style.decide : (s t : Style) → Decidable (s = t)
  | ⟨font, fill, border, alignment, numberFormat, locked, rules⟩,
    ⟨font', fill', border', alignment', numberFormat', locked', rules'⟩ =>
      match Style.decideRules rules rules' with
      | isFalse h => isFalse fun h' => h (by simp_all)
      | isTrue h =>
          if h' : font = font' ∧ fill = fill' ∧ border = border' ∧ alignment = alignment' ∧
              numberFormat = numberFormat' ∧ locked = locked' then isTrue (by simp_all)
          else isFalse fun heq => h' (by simp_all)

def Style.decideRules : (rs ss : List (Condition × Style)) → Decidable (rs = ss)
  | [], [] => isTrue rfl
  | [], _ :: _ => isFalse (by simp)
  | _ :: _, [] => isFalse (by simp)
  | (c, s) :: rs, (d, t) :: ss =>
      match (inferInstance : Decidable (c = d)), Style.decide s t, Style.decideRules rs ss with
      | isTrue h, isTrue h', isTrue h'' => isTrue (by simp_all)
      | isFalse h, _, _ => isFalse (by simp_all)
      | _, isFalse h, _ => isFalse (by simp_all)
      | _, _, isFalse h => isFalse (by simp_all)

end

instance : DecidableEq Style := Style.decide

instance : Inhabited Style := ⟨{}⟩

mutual

/-- A style that holds a number which is none differs even from itself. -/
def Style.hasNan : Style → Bool
  | ⟨font, _, _, _, _, _, rules⟩ =>
      (font.size.map Binary64.isNan).getD false || Style.hasNanRules rules

def Style.hasNanRules : List (Condition × Style) → Bool
  | [] => false
  | (condition, style) :: rules =>
      condition.hasNan || style.hasNan || Style.hasNanRules rules

end

/-- Lay `top` on `base`. -/
def Font.merge (base top : Font) : Font where
  name := top.name.or base.name
  size := top.size.or base.size
  bold := top.bold.or base.bold
  italic := top.italic.or base.italic
  underline := top.underline.or base.underline
  color := top.color.or base.color

def Edge.merge (base top : Edge) : Edge where
  line := top.line.or base.line
  color := top.color.or base.color

/-- An edge that only one side has is kept as it is. -/
def Edge.merge? : Option Edge → Option Edge → Option Edge
  | some base, some top => some (base.merge top)
  | none, top => top
  | base, none => base

def Border.merge (base top : Border) : Border where
  left := Edge.merge? base.left top.left
  right := Edge.merge? base.right top.right
  top := Edge.merge? base.top top.top
  bottom := Edge.merge? base.bottom top.bottom

def Alignment.merge (base top : Alignment) : Alignment where
  horizontal := top.horizontal.or base.horizontal
  vertical := top.vertical.or base.vertical
  wrap := top.wrap.or base.wrap

namespace Style

/-- Lay `top` on `base`: what `top` sets wins, and its rules come last. -/
def merge (base top : Style) : Style where
  font := base.font.merge top.font
  fill := top.fill.or base.fill
  border := base.border.merge top.border
  alignment := base.alignment.merge top.alignment
  numberFormat := top.numberFormat.or base.numberFormat
  locked := top.locked.or base.locked
  rules := base.rules ++ top.rules

def isEmpty (s : Style) : Bool := s == {}

def link : Style where
  font := { color := some (.rgb 0x05 0x63 0xC1), underline := some .single }

theorem merge_empty (s : Style) : s.merge {} = s := by
  obtain ⟨font, fill, ⟨left, right, top, bottom⟩, alignment, numberFormat, locked, rules⟩ := s
  cases left <;> cases right <;> cases top <;> cases bottom <;>
    simp [merge, Font.merge, Border.merge, Alignment.merge, Edge.merge?]

theorem empty_merge (s : Style) : ({} : Style).merge s = s := by
  obtain ⟨font, fill, border, alignment, numberFormat, locked, rules⟩ := s
  simp [merge, Font.merge, Border.merge, Alignment.merge, Edge.merge?]

end Style

end TableBook
