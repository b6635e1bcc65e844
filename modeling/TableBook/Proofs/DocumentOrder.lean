import Mathlib.Data.List.Lex
import TableBook.Markup.Node

/-!
Document order by paths. A path leads into a forest by the index of a node and
then of a child, again and again; the elements of a kind are found in the
lexicographic order of their paths, in which an element comes before what is
inside it.
-/

namespace TableBook

def Node.element? : Node → Option Element
  | .text _ => none
  | .element e => some e

/-- The element that a path leads to. -/
def Node.elementAt? : List Nat → List Node → Option Element
  | [], _ => none
  | i :: path, nodes => (nodes[i]?.bind Node.element?).bind fun e =>
      if path = [] then some e else elementAt? path e.children

/-- The elements of a forest that satisfy `p`, all of them and in the order of
their paths. -/
def InDocumentOrder (p : Element → Bool) (nodes : List Node) (found : List Element) : Prop :=
  ∃ paths : List (List Nat), paths.Pairwise (List.Lex (· < ·)) ∧
    (∀ path, path ∈ paths ↔ ∃ e, Node.elementAt? path nodes = some e ∧ p e = true) ∧
    paths.map (Node.elementAt? · nodes) = found.map some

mutual

/-- All elements with their paths, which start with `i`. -/
def Node.walk (i : Nat) : Node → List (List Nat × Element)
  | .text _ => []
  | .element e => e.walk i

def Element.walk (i : Nat) : Element → List (List Nat × Element)
  | ⟨tag, attributes, children⟩ =>
      ([i], ⟨tag, attributes, children⟩) ::
        (Node.walkAll 0 children).map fun entry => (i :: entry.1, entry.2)

def Node.walkAll (i : Nat) : List Node → List (List Nat × Element)
  | [] => []
  | node :: nodes => node.walk i ++ Node.walkAll (i + 1) nodes

end

mutual

theorem Node.find_eq (p : Element → Bool) (i : Nat) (node : Node) :
    node.find p = ((node.walk i).map Prod.snd).filter p := by
  cases node with
  | text => rfl
  | element e => exact e.find_eq p i

theorem Element.find_eq (p : Element → Bool) (i : Nat) (e : Element) :
    e.find p = ((e.walk i).map Prod.snd).filter p := by
  obtain ⟨tag, attributes, children⟩ := e
  rw [Element.find, Element.walk, List.map_cons, List.map_map, List.filter_cons]
  rw [Node.findAll_eq p 0 children]
  rfl

theorem Node.findAll_eq (p : Element → Bool) (i : Nat) (nodes : List Node) :
    Node.findAll p nodes = ((Node.walkAll i nodes).map Prod.snd).filter p := by
  cases nodes with
  | nil => rfl
  | cons node nodes =>
      rw [Node.findAll, Node.walkAll, List.map_append, List.filter_append]
      rw [node.find_eq p i, Node.findAll_eq p (i + 1) nodes]

end

mutual

theorem Node.mem_walk_iff (node : Node) (i : Nat) (path : List Nat) (x : Element) :
    (path, x) ∈ node.walk i ↔ ∃ rest, path = i :: rest ∧
      Node.elementAt? (0 :: rest) [node] = some x := by
  cases node with
  | text => simp [Node.walk, Node.elementAt?, Node.element?]
  | element e => exact e.mem_walk_iff i path x

theorem Element.mem_walk_iff (e : Element) (i : Nat) (path : List Nat) (x : Element) :
    (path, x) ∈ e.walk i ↔ ∃ rest, path = i :: rest ∧
      Node.elementAt? (0 :: rest) [.element e] = some x := by
  obtain ⟨tag, attributes, children⟩ := e
  simp only [Element.walk, List.mem_cons, List.mem_map, Prod.mk.injEq, Prod.exists,
    Node.elementAt?, Node.element?, List.getElem?_cons_zero, Option.bind_some]
  constructor
  · rintro (⟨rfl, rfl⟩ | ⟨below, y, hbelow, rfl, rfl⟩)
    · exact ⟨[], rfl, if_pos rfl⟩
    · obtain ⟨j, rest, rfl, hj⟩ := (Node.mem_walkAll_iff 0 below y children).mp hbelow
      rw [Nat.zero_add]
      exact ⟨j :: rest, rfl, hj⟩
  · rintro ⟨rest, rfl, hrest⟩
    cases rest with
    | nil => exact .inl ⟨rfl, (Option.some.inj hrest).symm⟩
    | cons j rest =>
        refine .inr ⟨j :: rest, x, ?_, rfl, rfl⟩
        refine (Node.mem_walkAll_iff 0 _ x children).mpr ⟨j, rest, ?_, hrest⟩
        rw [Nat.zero_add]

theorem Node.mem_walkAll_iff (i : Nat) (path : List Nat) (x : Element) (nodes : List Node) :
    (path, x) ∈ Node.walkAll i nodes ↔ ∃ j rest, path = (i + j) :: rest ∧
      Node.elementAt? (j :: rest) nodes = some x := by
  cases nodes with
  | nil => simp [Node.walkAll, Node.elementAt?]
  | cons node nodes =>
      have hnext (j : Nat) : i + 1 + j = i + (j + 1) := by omega
      rw [Node.walkAll, List.mem_append, node.mem_walk_iff i path x]
      rw [Node.mem_walkAll_iff (i + 1) path x nodes]
      constructor
      · rintro (⟨rest, rfl, hrest⟩ | ⟨j, rest, rfl, hj⟩)
        · exact ⟨0, rest, rfl, hrest⟩
        · exact ⟨j + 1, rest, congrArg (· :: rest) (hnext j), hj⟩
      · rintro ⟨j, rest, rfl, hj⟩
        cases j with
        | zero => exact .inl ⟨rest, rfl, hj⟩
        | succ j => exact .inr ⟨j, rest, congrArg (· :: rest) (hnext j).symm, hj⟩

end

mutual

theorem Node.walk_pairwise (i : Nat) (node : Node) :
    (node.walk i).Pairwise fun a b => List.Lex (· < ·) a.1 b.1 := by
  cases node with
  | text => exact .nil
  | element e => exact e.walk_pairwise i

theorem Element.walk_pairwise (i : Nat) (e : Element) :
    (e.walk i).Pairwise fun a b => List.Lex (· < ·) a.1 b.1 := by
  obtain ⟨tag, attributes, children⟩ := e
  rw [Element.walk, List.pairwise_cons, List.pairwise_map]
  constructor
  · intro entry hentry
    obtain ⟨⟨below, y⟩, hbelow, rfl⟩ := List.mem_map.mp hentry
    obtain ⟨j, rest, rfl, -⟩ := (Node.mem_walkAll_iff 0 below y children).mp hbelow
    exact .cons .nil
  · exact (Node.walkAll_pairwise 0 children).imp .cons

theorem Node.walkAll_pairwise (i : Nat) (nodes : List Node) :
    (Node.walkAll i nodes).Pairwise fun a b => List.Lex (· < ·) a.1 b.1 := by
  cases nodes with
  | nil => exact .nil
  | cons node nodes =>
      rw [Node.walkAll, List.pairwise_append]
      refine ⟨node.walk_pairwise i, Node.walkAll_pairwise (i + 1) nodes, ?_⟩
      rintro ⟨a, x⟩ ha ⟨b, y⟩ hb
      obtain ⟨rest, rfl, -⟩ := (node.mem_walk_iff i a x).mp ha
      obtain ⟨j, rest', rfl, -⟩ := (Node.mem_walkAll_iff (i + 1) b y nodes).mp hb
      exact .rel (Nat.lt_add_right j (Nat.lt_succ_self i))

end

namespace Node

variable {path : List Nat} {x : Element} {nodes : List Node}

theorem mem_walkAll_zero_iff :
    (path, x) ∈ walkAll 0 nodes ↔ elementAt? path nodes = some x := by
  rw [mem_walkAll_iff]
  constructor
  · rintro ⟨j, rest, rfl, hj⟩
    rw [Nat.zero_add]
    exact hj
  · intro h
    cases path with
    | nil => cases h
    | cons j rest => exact ⟨j, rest, by rw [Nat.zero_add], h⟩

theorem inDocumentOrder_findAll (p : Element → Bool) (nodes : List Node) :
    InDocumentOrder p nodes (findAll p nodes) := by
  have hfound : findAll p nodes = ((walkAll 0 nodes).filter fun a => p a.2).map Prod.snd := by
    rw [findAll_eq p 0, List.filter_map]
    rfl
  refine ⟨((walkAll 0 nodes).filter fun a => p a.2).map Prod.fst, ?_, ?_, ?_⟩
  · rw [List.pairwise_map]
    exact (walkAll_pairwise 0 nodes).filter _
  · intro path
    simp only [List.mem_map, List.mem_filter, Prod.exists, exists_and_right, exists_eq_right,
      mem_walkAll_zero_iff]
  · rw [hfound, List.map_map, List.map_map]
    refine List.map_congr_left ?_
    rintro ⟨path, x⟩ hmem
    exact mem_walkAll_zero_iff.mp (List.mem_filter.mp hmem).1

theorem mem_findAll_iff {p : Element → Bool} :
    x ∈ findAll p nodes ↔ p x = true ∧ ∃ path, elementAt? path nodes = some x := by
  simp only [findAll_eq p 0, List.mem_filter, List.mem_map, Prod.exists, exists_eq_right,
    mem_walkAll_zero_iff]
  exact and_comm

/-- A path inside an element goes on from the path to it. -/
theorem elementAt?_append {inner : List Nat} {e : Element}
    (he : elementAt? path nodes = some e) (hx : elementAt? inner e.children = some x) :
    elementAt? (path ++ inner) nodes = some x := by
  induction path generalizing nodes with
  | nil => cases he
  | cons i rest ih =>
      obtain ⟨outer, houter, hrest⟩ := Option.bind_eq_some_iff.mp he
      rw [List.cons_append, elementAt?, houter, Option.bind_some]
      have hinner : inner ≠ [] := by
        rintro rfl
        cases hx
      rw [if_neg fun h => hinner (List.append_eq_nil_iff.mp h).2]
      split at hrest
      · next hnil =>
          obtain rfl := Option.some.inj hrest
          rw [hnil]
          exact hx
      · exact ih hrest

/-- What is found inside an element of a forest is found in the forest. -/
theorem mem_findAll_of_mem_children {p : Element → Bool} {e : Element}
    (he : ∃ path, elementAt? path nodes = some e) (hx : x ∈ findAll p e.children) :
    x ∈ findAll p nodes := by
  obtain ⟨path, hpath⟩ := he
  obtain ⟨hp, inner, hinner⟩ := mem_findAll_iff.mp hx
  exact mem_findAll_iff.mpr ⟨hp, path ++ inner, elementAt?_append hpath hinner⟩

end Node

end TableBook
