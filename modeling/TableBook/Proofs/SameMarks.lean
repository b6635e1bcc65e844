import Mathlib.Data.List.Forall2
import TableBook.Proofs.StrictReading

/-!
Attributes in another order, and attributes that are no marks. Neither is looked
at: a document that is read without checks gives the same whatever is done to them,
and one that is checked fails in the same table, if in another of its marks.
-/

namespace TableBook

open TableFault

/-- The attributes in the namespace of marks. -/
def marksOf (attributes : List (String × String)) : List (String × String) :=
  attributes.filter fun entry => Mark.isName entry.1

/-- The same marks in some order, each with one value. -/
structure SameMarks (xs ys : List (String × String)) : Prop where
  perm : (marksOf xs).Perm (marksOf ys)
  distinct : ((marksOf xs).map (·.1)).Nodup

mutual

inductive Node.Alike : Node → Node → Prop
  | text (content : String) : Node.Alike (.text content) (.text content)
  | element {e e' : Element} (he : Element.Alike e e') : Node.Alike (.element e) (.element e')

/-- Two trees of the same tags and texts, with the same marks on their elements. -/
inductive Element.Alike : Element → Element → Prop
  | intro {tag : String} {attributes attributes' : List (String × String)}
      {children children' : List Node} (hmarks : SameMarks attributes attributes')
      (hchildren : Node.AllAlike children children') :
      Element.Alike ⟨tag, attributes, children⟩ ⟨tag, attributes', children'⟩

inductive Node.AllAlike : List Node → List Node → Prop
  | nil : Node.AllAlike [] []
  | cons {node node' : Node} {nodes nodes' : List Node} (hnode : Node.Alike node node')
      (hnodes : Node.AllAlike nodes nodes') : Node.AllAlike (node :: nodes) (node' :: nodes')

end

section Marks

variable {xs ys : List (String × String)}

theorem marksOf_append (xs ys : List (String × String)) :
    marksOf (xs ++ ys) = marksOf xs ++ marksOf ys :=
  List.filter_append ..

/-- The marks stay the same exactly if one list becomes the other by a new order
and by attributes that are no marks. -/
theorem sameMarks_iff :
    SameMarks xs ys ↔ ((marksOf xs).map (·.1)).Nodup ∧
      ∃ added removed : List (String × String), marksOf added = [] ∧ marksOf removed = [] ∧
        (xs ++ added).Perm (ys ++ removed) := by
  constructor
  · rintro ⟨hperm, hdistinct⟩
    let others (zs : List (String × String)) := zs.filter fun entry => !Mark.isName entry.1
    have hothers : ∀ zs, marksOf (others zs) = [] := by
      intro zs
      simp [marksOf, others]
    have hsplit : ∀ zs, (marksOf zs ++ others zs).Perm zs := by
      intro zs
      simpa [marksOf, others] using List.filter_append_perm (fun entry => Mark.isName entry.1) zs
    -- Each list takes over what the other one has besides marks.
    refine ⟨hdistinct, others ys, others xs, hothers ys, hothers xs, ?_⟩
    calc (xs ++ others ys).Perm ((marksOf xs ++ others xs) ++ others ys) :=
          (hsplit xs).symm.append_right _
      _ |>.Perm ((marksOf ys ++ others ys) ++ others xs) := by
          rw [List.append_assoc, List.append_assoc]
          exact hperm.append List.perm_append_comm
      _ |>.Perm (ys ++ others xs) := (hsplit ys).append_right _
  · rintro ⟨hdistinct, added, removed, hadded, hremoved, hperm⟩
    refine ⟨?_, hdistinct⟩
    have hmarks : (marksOf (xs ++ added)).Perm (marksOf (ys ++ removed)) := hperm.filter _
    rwa [marksOf_append, marksOf_append, hadded, hremoved, List.append_nil,
      List.append_nil] at hmarks

theorem find?_marksOf {name : String} (h : Mark.isName name = true) :
    (marksOf xs).find? (·.1 == name) = xs.find? (·.1 == name) := by
  rw [marksOf, List.find?_filter]
  congr 1
  funext entry
  by_cases hentry : entry.1 = name
  · simp [hentry, h]
  · simp [hentry]

/-- Where names are distinct, the first entry with a name is the only one. -/
theorem find?_eq_of_perm (h : xs.Perm ys) (hnodup : (xs.map (·.1)).Nodup) (name : String) :
    xs.find? (·.1 == name) = ys.find? (·.1 == name) := by
  induction h with
  | nil => rfl
  | cons entry _ ih =>
      rw [List.find?_cons, List.find?_cons, ih (List.nodup_cons.mp hnodup).2]
  | swap first second rest =>
      have hne : second.1 ≠ first.1 := by
        intro heq
        simp [heq] at hnodup
      by_cases hfirst : first.1 = name
      · have hsecond : second.1 ≠ name := fun h => hne (h.trans hfirst.symm)
        simp [hfirst, hsecond]
      · simp [List.find?_cons, hfirst]
  | trans hxy _ ihxy ihyz =>
      exact (ihxy hnodup).trans (ihyz ((hxy.map _).nodup_iff.mp hnodup))

theorem SameMarks.find?_eq (h : SameMarks xs ys) {name : String} (hname : Mark.isName name = true) :
    xs.find? (·.1 == name) = ys.find? (·.1 == name) := by
  rw [← find?_marksOf hname, find?_eq_of_perm h.perm h.distinct, find?_marksOf hname]

end Marks

section Elements

variable {p : Element → Bool}

mutual

theorem Node.Alike.textContent_eq :
    ∀ {node node' : Node}, node.Alike node' → node.textContent = node'.textContent
  | _, _, .text _ => rfl
  | _, _, .element he => he.textContent_eq

theorem Element.Alike.textContent_eq :
    ∀ {e e' : Element}, e.Alike e' → e.textContent = e'.textContent
  | _, _, .intro _ hchildren => hchildren.textContents_eq

theorem Node.AllAlike.textContents_eq : ∀ {nodes nodes' : List Node},
    Node.AllAlike nodes nodes' → Node.textContents nodes = Node.textContents nodes'
  | _, _, .nil => rfl
  | _, _, .cons hnode hnodes => by
      rw [Node.textContents, Node.textContents, hnode.textContent_eq, hnodes.textContents_eq]

end

theorem Node.AllAlike.elements : ∀ {nodes nodes' : List Node}, Node.AllAlike nodes nodes' →
    List.Forall₂ Element.Alike (Node.elements nodes) (Node.elements nodes')
  | _, _, .nil => .nil
  | _, _, .cons (.text _) hnodes => hnodes.elements
  | _, _, .cons (.element he) hnodes => .cons he hnodes.elements

mutual

theorem Node.Alike.find (hp : ∀ {e e' : Element}, e.Alike e' → p e = p e') :
    ∀ {node node' : Node}, node.Alike node' →
      List.Forall₂ Element.Alike (node.find p) (node'.find p)
  | _, _, .text _ => .nil
  | _, _, .element he => he.find hp

theorem Element.Alike.find (hp : ∀ {e e' : Element}, e.Alike e' → p e = p e') :
    ∀ {e e' : Element}, e.Alike e' → List.Forall₂ Element.Alike (e.find p) (e'.find p)
  | _, _, h@(.intro _ hchildren) => by
      have hbelow := hchildren.findAll hp
      rw [Element.find, Element.find, hp h]
      split
      · exact .cons h hbelow
      · exact hbelow

theorem Node.AllAlike.findAll (hp : ∀ {e e' : Element}, e.Alike e' → p e = p e') :
    ∀ {nodes nodes' : List Node}, Node.AllAlike nodes nodes' →
      List.Forall₂ Element.Alike (Node.findAll p nodes) (Node.findAll p nodes')
  | _, _, .nil => .nil
  | _, _, .cons hnode hnodes => List.rel_append (hnode.find hp) (hnodes.findAll hp)

end

theorem Element.Alike.filter (hp : ∀ {e e' : Element}, e.Alike e' → p e = p e')
    {es es' : List Element} (h : List.Forall₂ Element.Alike es es') :
    List.Forall₂ Element.Alike (es.filter p) (es'.filter p) := by
  refine List.rel_filter ?_ h
  intro e e' he
  beta_reduce
  rw [hp he]

end Elements

namespace Element.Alike

variable {e e' : Element}

theorem sameMarks (h : e.Alike e') : SameMarks e.attributes e'.attributes := by
  obtain ⟨hmarks, -⟩ := h
  exact hmarks

theorem is_eq (h : e.Alike e') (tag : String) : e.is tag = e'.is tag := by
  obtain ⟨-, -⟩ := h
  rfl

theorem attribute?_eq (h : e.Alike e') (a : Mark) :
    e.attribute? a.name = e'.attribute? a.name := by
  rw [attribute?, attribute?, h.sameMarks.find?_eq a.isName_name]

theorem mark?_eq (h : e.Alike e') : e.mark? = e'.mark? := by
  funext a
  rw [mark?, mark?, filled?, filled?, h.attribute?_eq]

theorem has_eq (h : e.Alike e') (a : Mark) : e.has a.name = e'.has a.name := by
  rw [has, has, ← List.isSome_find?, ← List.isSome_find?, h.sameMarks.find?_eq a.isName_name]

theorem columnSpan_eq (h : e.Alike e') : e.columnSpan = e'.columnSpan := by
  rw [columnSpan, columnSpan, h.mark?_eq]

theorem merge?_eq (h : e.Alike e') (a : Address) :
    (Slot.mk e a).merge? = (Slot.mk e' a).merge? := by
  rw [Slot.merge?, Slot.merge?, h.columnSpan_eq, rowSpan, rowSpan, h.mark?_eq]

theorem sheetName_eq (h : e.Alike e') : e.sheetName = e'.sheetName := by
  rw [sheetName, sheetName, h.attribute?_eq]

theorem isSheetTable_eq (h : e.Alike e') : e.isSheetTable = e'.isSheetTable := by
  rw [isSheetTable, isSheetTable, h.is_eq, h.has_eq]

theorem childElements (h : e.Alike e') :
    List.Forall₂ Element.Alike e.childElements e'.childElements := by
  obtain ⟨-, hchildren⟩ := h
  exact hchildren.elements

theorem columnElements (h : e.Alike e') :
    List.Forall₂ Element.Alike e.columnElements e'.columnElements := by
  rw [Element.columnElements, Element.columnElements]
  refine List.rel_flatMap (filter (fun he => he.is_eq _) h.childElements) ?_
  intro group group' hgroup
  exact filter (fun he => he.is_eq _) hgroup.childElements

theorem tableRows (h : e.Alike e') :
    List.Forall₂ Element.Alike e.tableRows e'.tableRows := by
  rw [Element.tableRows, Element.tableRows]
  refine List.rel_flatMap h.childElements ?_
  intro child child' hchild
  simp only [hchild.is_eq]
  split
  · exact filter (fun he => he.is_eq _) hchild.childElements
  · split
    · exact .cons hchild .nil
    · exact .nil

theorem rowCells (h : e.Alike e') : List.Forall₂ Element.Alike e.rowCells e'.rowCells := by
  rw [Element.rowCells, Element.rowCells]
  refine filter ?_ h.childElements
  intro cell cell' hcell
  rw [hcell.is_eq, hcell.is_eq]

end Element.Alike

/-- Two results that are the same, or both faults, and the same one if nothing was
checked. -/
structure Agree {ε α : Type} (strict : Bool) (x y : Except ε α) : Prop where
  ok_iff : ∀ a, x = .ok a ↔ y = .ok a
  eq_of_permissive : strict = false → x = y

namespace Agree

variable {ε α β : Type} {strict : Bool} {x y : Except ε α}

theorem of_eq (h : x = y) : Agree strict x y := ⟨fun _ => by rw [h], fun _ => h⟩

theorem bind {f g : α → Except ε β} (h : Agree strict x y)
    (hfg : ∀ a, Agree strict (f a) (g a)) : Agree strict (x >>= f) (y >>= g) := by
  constructor
  · intro b
    simp only [bind_eq_ok_iff, h.ok_iff, (hfg _).ok_iff]
  · intro hstrict
    rw [h.eq_of_permissive hstrict]
    exact bind_congr fun a => (hfg a).eq_of_permissive hstrict

theorem ite (h : Agree strict x y) (c : Prop) [Decidable c] (e : ε) :
    Agree strict (if c then x else .error e) (if c then y else .error e) := by
  split
  · exact h
  · exact of_eq rfl

theorem cases (h : Agree strict x y) :
    (∃ a, x = .ok a ∧ y = .ok a) ∨ ∃ e e', x = .error e ∧ y = .error e' ∧
      (strict = false → e = e') := by
  cases hx : x with
  | ok a => exact .inl ⟨a, rfl, (h.ok_iff a).mp hx⟩
  | error e =>
      cases hy : y with
      | ok a =>
          rw [(h.ok_iff a).mpr hy] at hx
          cases hx
      | error e' =>
          refine .inr ⟨e, e', rfl, rfl, ?_⟩
          intro hstrict
          have heq := h.eq_of_permissive hstrict
          rw [hx, hy] at heq
          exact Except.error.inj heq

end Agree

theorem Element.Alike.check {e e' : Element} (h : e.Alike e') (strict : Bool) :
    Agree strict (e.check strict) (e'.check strict) := by
  have hmarks : ∀ {e : Element}, e.check strict = .ok () ↔
      ∀ entry ∈ marksOf e.attributes, Grammar.check strict entry.1 entry.2 = .ok () := by
    intro e
    rw [Element.check_eq_ok_iff, marksOf, List.forall_mem_filter]
  constructor
  · rintro ⟨⟩
    rw [hmarks, hmarks]
    simp only [h.sameMarks.perm.mem_iff]
  · rintro rfl
    rw [e.check_permissive, e'.check_permissive]

namespace Sheet

variable {s : Sheet} {context : Context} {e e' : Element} {es es' : List Element}

theorem writePayload_alike (h : e.Alike e') (a : Address) :
    s.writePayload context e a = s.writePayload context e' a := by
  rw [writePayload, writePayload, Element.scalar, Element.scalar, h.mark?_eq, h.textContent_eq]

theorem cellStyle_alike (h : e.Alike e') (rowStyle : Option String) :
    cellStyle context e rowStyle = cellStyle context e' rowStyle := by
  rw [cellStyle, cellStyle, Element.fragments, Element.fragments, h.mark?_eq]

theorem attach_alike (h : e.Alike e') (a : Address) : s.attach e a = s.attach e' a := by
  rw [attach, attach, Element.linkTarget?, Element.linkTarget?, Element.comment?,
    Element.comment?, h.mark?_eq]

theorem placeCell_alike (h : e.Alike e') (a : Address) (rowStyle : Option String) :
    Agree context.options.strict (s.placeCell context e a rowStyle)
      (s.placeCell context e' a rowStyle) := by
  rw [placeCell_eq, placeCell_eq, writePayload_alike h, cellStyle_alike h, h.merge?_eq]
  simp only [attach_alike h]
  exact (h.check _).bind fun _ => .of_eq rfl

theorem placeCells_alike (h : List.Forall₂ Element.Alike es es') (row : Nat)
    (rowStyle : Option String) (column : Nat) :
    Agree context.options.strict (s.placeCells context row column rowStyle es)
      (s.placeCells context row column rowStyle es') := by
  induction h generalizing s column with
  | nil => exact .of_eq rfl
  | cons hcell _ ih =>
      rw [placeCells_cons, placeCells_cons, hcell.columnSpan_eq]
      exact (placeCell_alike hcell _ rowStyle).bind fun t => (ih _).ite _ _

theorem placeRow_alike (h : e.Alike e') (row : Nat) :
    Agree context.options.strict (s.placeRow context row e) (s.placeRow context row e') := by
  rw [placeRow, placeRow, h.mark?_eq]
  refine (h.check _).bind fun _ => .bind (.of_eq rfl) fun t => ?_
  exact placeCells_alike h.rowCells row _ 1

theorem placeRows_alike (h : List.Forall₂ Element.Alike es es') (row : Nat) :
    Agree context.options.strict (s.placeRows context row es) (s.placeRows context row es') := by
  induction h generalizing s row with
  | nil => exact .of_eq rfl
  | cons hrow _ ih => exact (placeRow_alike hrow row).bind fun t => ih (row + 1)

theorem withColumn_alike (h : e.Alike e') (column : Nat) :
    Agree context.options.strict (s.withColumn context column e)
      (s.withColumn context column e') := by
  rw [withColumn_eq, withColumn_eq, h.mark?_eq, h.attribute?_eq]
  exact (h.check _).bind fun _ => .of_eq rfl

theorem withColumns_alike (h : List.Forall₂ Element.Alike es es') (column : Nat) :
    Agree context.options.strict (s.withColumns context column es)
      (s.withColumns context column es') := by
  induction h generalizing s column with
  | nil => exact .of_eq rfl
  | cons hcolumn _ ih => exact (withColumn_alike hcolumn column).bind fun t => ih (column + 1)

theorem ofTable_alike (h : e.Alike e') (taken : List String) :
    Agree context.options.strict (Sheet.ofTable context e taken)
      (Sheet.ofTable context e' taken) := by
  have hstart : start context.options e taken = start context.options e' taken := by
    rw [start, start, withTableSettings, withTableSettings, h.sheetName_eq, h.mark?_eq]
  rw [ofTable_eq, ofTable_eq, hstart]
  refine (h.check _).bind fun _ => (withColumns_alike h.columnElements 1).bind fun t => ?_
  refine (placeRows_alike h.tableRows 1).bind fun u => .of_eq ?_
  rw [withAutosize, withAutosize, h.mark?_eq]

end Sheet

namespace Workbook

/-- Two readings that end in one workbook, both without a table, or both in a fault
of the table with one index. -/
inductive SameOutcome : Except DocumentFault Workbook → Except DocumentFault Workbook → Prop
  | ok (w : Workbook) : SameOutcome (.ok w) (.ok w)
  | noTable : SameOutcome (.error .noTable) (.error .noTable)
  | table (index : Nat) (name : String) (cause cause' : TableFault) :
      SameOutcome (.error (.table index name cause)) (.error (.table index name cause'))

variable {context : Context}

theorem addTables_alike {tables tables' : List Element}
    (h : List.Forall₂ Element.Alike tables tables') (w : Workbook) (index : Nat) :
    (context.options.strict = false →
      addTables context w index tables = addTables context w index tables') ∧
      SameOutcome (addTables context w index tables) (addTables context w index tables') := by
  induction h generalizing w index with
  | nil => exact ⟨fun _ => rfl, .ok w⟩
  | cons htable _ ih =>
      have hresult : Agree context.options.strict (Sheet.ofTable context _ w.names)
          (Sheet.ofTable context _ w.names) := Sheet.ofTable_alike htable w.names
      rw [addTables, addTables, htable.sheetName_eq]
      obtain ⟨s, hs, hs'⟩ | ⟨cause, cause', hcause, hcause', hsame⟩ := hresult.cases
      · rw [hs, hs']
        exact ih (w.push s) (index + 1)
      · rw [hcause, hcause']
        refine ⟨?_, .table ..⟩
        intro hstrict
        rw [hsame hstrict]

/-- Neither the order of attributes nor those that are no marks make a difference to
a document that is not checked. If it is checked, both give the same workbook or
both fail, in the same table, though maybe in different marks. -/
theorem ofNodes_alike {nodes nodes' : List Node} (h : Node.AllAlike nodes nodes')
    (context : Context) :
    (context.options.strict = false → ofNodes context nodes = ofNodes context nodes') ∧
      SameOutcome (ofNodes context nodes) (ofNodes context nodes') := by
  have htables : List.Forall₂ Element.Alike (Node.findAll Element.isSheetTable nodes)
      (Node.findAll Element.isSheetTable nodes') := h.findAll fun he => he.isSheetTable_eq
  rw [ofNodes, ofNodes]
  generalize Node.findAll Element.isSheetTable nodes = tables at htables ⊢
  generalize Node.findAll Element.isSheetTable nodes' = tables' at htables ⊢
  cases htables with
  | nil => exact ⟨fun _ => rfl, .noTable⟩
  | cons htable hrest => exact addTables_alike (.cons htable hrest) {} 0

/-- Two marks that are both ill-written, in either order: the check stops at the
first one, and without a check both are passed over. -/
theorem ofNodes_alike_reordered :
    let marks := [(Mark.sheet.name, "Data"), (Mark.zoom.name, "big"), (Mark.freeze.name, "here")]
    let nodes (attributes : List (String × String)) : List Node :=
      [.element ⟨"table", attributes, [.element ⟨"tr", [], []⟩]⟩]
    let other := ("class", "wide") :: marks.reverse
    let read (strict : Bool) := ofNodes ⟨∅, { strict }, {}⟩
    Node.AllAlike (nodes marks) (nodes other) ∧
      read false (nodes marks) = read false (nodes other) ∧
      SameOutcome (read true (nodes marks)) (read true (nodes other)) ∧
      read true (nodes marks) =
        .error (.table 0 "Data" (.mark (.invalidValue Mark.zoom.name "big" "a positive integer"))) ∧
      read true (nodes other) =
        .error (.table 0 "Data" (.mark (.invalidValue Mark.freeze.name "here"
          "a cell reference like B2"))) := by
  intro marks nodes other read
  have hmarks : SameMarks marks other := by
    refine sameMarks_iff.mpr ⟨by decide +kernel, [("class", "wide")], [], rfl, rfl, ?_⟩
    exact List.perm_append_comm.trans (.cons _ (marks.reverse_perm.symm.trans (by simp)))
  have hrow : Node.Alike (.element ⟨"tr", [], []⟩) (.element ⟨"tr", [], []⟩) :=
    .element (.intro ⟨.refl _, List.nodup_nil⟩ .nil)
  have halike : Node.AllAlike (nodes marks) (nodes other) :=
    .cons (.element (.intro hmarks (.cons hrow .nil))) .nil
  refine ⟨halike, ?_, ?_, rfl, rfl⟩
  · exact (ofNodes_alike halike ⟨∅, { strict := false }, {}⟩).1 rfl
  · exact (ofNodes_alike halike ⟨∅, { strict := true }, {}⟩).2

end Workbook

end TableBook
