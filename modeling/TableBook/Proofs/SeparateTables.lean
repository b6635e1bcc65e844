import TableBook.Proofs.DocumentOrder
import TableBook.Proofs.Renaming

namespace TableBook

theorem InDocumentOrder.unique {p : Element → Bool} {nodes : List Node} {xs ys : List Element}
    (hxs : InDocumentOrder p nodes xs) (hys : InDocumentOrder p nodes ys) : xs = ys := by
  obtain ⟨paths, hpaths, hmem, hfound⟩ := hxs
  obtain ⟨paths', hpaths', hmem', hfound'⟩ := hys
  have hasymm : Std.Asymm (List.Lex (α := Nat) (· < ·)) := inferInstance
  have hirrefl : Std.Irrefl (List.Lex (α := Nat) (· < ·)) := inferInstance
  have hantisymm : Std.Antisymm (List.Lex (α := Nat) (· < ·)) :=
    ⟨fun a b hab hba => absurd hba (hasymm.asymm a b hab)⟩
  have hsame : paths = paths' := by
    refine hpaths.eq_of_mem_iff hpaths' ?_
    intro path
    rw [hmem, hmem']
  subst hsame
  exact List.map_injective_iff.mpr (Option.some_injective _) (hfound.symm.trans hfound')

namespace Workbook

variable {context : Context} {table : Element} {fault : DocumentFault}

def Builds (context : Context) (table : Element) : Prop :=
  ∃ s, Sheet.ofTable context table [] = .ok s

theorem ofTable_eq_error_iff {taken : List String} {cause : TableFault} :
    Sheet.ofTable context table taken = .error cause ↔
      Sheet.ofTable context table [] = .error cause := by
  rw [Sheet.ofTable_eq_map context table taken]
  cases Sheet.ofTable context table [] <;> simp [Except.map]

theorem ofTable_eq_ok_iff {taken : List String} {s : Sheet} :
    Sheet.ofTable context table taken = .ok s ↔ ∃ s₀, Sheet.ofTable context table [] = .ok s₀ ∧
      s₀.withName (Sheet.nameOf context.options table taken) = s := by
  rw [Sheet.ofTable_eq_map context table taken]
  cases Sheet.ofTable context table [] <;> simp [Except.map]

/-- A sheet that had names before it differs from that of its table alone in
nothing but the name, and not even there if names may be repeated. -/
theorem eq_withName_of_ofTable {taken : List String} {s : Sheet}
    (h : Sheet.ofTable context table taken = .ok s) :
    ∃ s₀, Sheet.ofTable context table [] = .ok s₀ ∧ s = s₀.withName s.name ∧
      (context.options.dedupe = false → s = s₀) := by
  obtain ⟨s₀, hs₀, rfl⟩ := ofTable_eq_ok_iff.mp h
  refine ⟨s₀, hs₀, rfl, ?_⟩
  intro hrepeat
  have hname : Sheet.nameOf context.options table taken =
      Sheet.nameOf context.options table [] := by
    simp only [Sheet.nameOf, hrepeat, Bool.false_eq_true, if_false]
  obtain ⟨s₁, hs₁, hsame⟩ := ofTable_eq_ok_iff.mp hs₀
  have heq : s₀ = s₁ := Except.ok.inj (hs₀.symm.trans hs₁)
  rw [hname, heq, hsame, heq]

theorem addTables_of_builds {tables : List Element}
    (h : ∀ table ∈ tables, Builds context table) (w : Workbook) (index : Nat) :
    ∃ v, addTables context w index tables = .ok v := by
  induction tables generalizing w index with
  | nil => exact ⟨w, rfl⟩
  | cons table rest ih =>
      obtain ⟨⟨s, hs⟩, hrest⟩ := List.forall_mem_cons.mp h
      rw [addTables, ofTable_eq_ok_iff.mpr ⟨s, hs, rfl⟩]
      exact ih hrest _ _

theorem builds_of_addTables {w v : Workbook} {index : Nat} {tables : List Element}
    (h : addTables context w index tables = .ok v) : ∀ table ∈ tables, Builds context table := by
  induction tables generalizing w index with
  | nil => exact List.forall_mem_nil _
  | cons table rest ih =>
      rw [addTables] at h
      split at h
      · next s hs =>
          obtain ⟨s₀, hs₀, -⟩ := ofTable_eq_ok_iff.mp hs
          exact List.forall_mem_cons.mpr ⟨⟨s₀, hs₀⟩, ih h⟩
      · cases h

/-- The document stops at the first table that gives no sheet. -/
theorem addTables_eq_error_iff {w : Workbook} {index : Nat} {tables : List Element} :
    addTables context w index tables = .error fault ↔
      ∃ before table after cause, tables = before ++ table :: after ∧
        (∀ earlier ∈ before, Builds context earlier) ∧
        Sheet.ofTable context table [] = .error cause ∧
        fault = .table (index + before.length) table.sheetName cause := by
  constructor
  · intro h
    induction tables generalizing w index with
    | nil => cases h
    | cons table rest ih =>
        rw [addTables] at h
        split at h
        · next s hs =>
            obtain ⟨s₀, hs₀, -⟩ := ofTable_eq_ok_iff.mp hs
            obtain ⟨before, failing, after, cause, rfl, hbefore, hcause, rfl⟩ := ih h
            refine ⟨table :: before, failing, after, cause, rfl, ?_, hcause, ?_⟩
            · exact List.forall_mem_cons.mpr ⟨⟨s₀, hs₀⟩, hbefore⟩
            · rw [List.length_cons, Nat.add_right_comm, Nat.add_assoc]
        · next cause hcause =>
            cases h
            refine ⟨[], table, rest, cause, rfl, List.forall_mem_nil _, ?_, rfl⟩
            exact ofTable_eq_error_iff.mp hcause
  · rintro ⟨before, failing, after, cause, rfl, hbefore, hcause, rfl⟩
    induction before generalizing w index with
    | nil =>
        rw [List.nil_append, addTables, ofTable_eq_error_iff.mpr hcause]
        rfl
    | cons earlier before ih =>
        obtain ⟨⟨s, hs⟩, hrest⟩ := List.forall_mem_cons.mp hbefore
        rw [List.cons_append, addTables, ofTable_eq_ok_iff.mpr ⟨s, hs, rfl⟩]
        refine (ih hrest).trans ?_
        rw [List.length_cons, Nat.add_right_comm, Nat.add_assoc]

theorem ofNodes_of_ne_nil {nodes : List Node}
    (h : Node.findAll Element.isSheetTable nodes ≠ []) :
    ofNodes context nodes =
      addTables context {} 0 (Node.findAll Element.isSheetTable nodes) := by
  rw [ofNodes]
  split
  · next hnil => exact absurd hnil h
  · rfl

theorem ofNodes_eq_noTable_iff {nodes : List Node} :
    ofNodes context nodes = .error .noTable ↔ Node.findAll Element.isSheetTable nodes = [] := by
  constructor
  · intro h
    by_contra hne
    rw [ofNodes_of_ne_nil hne, addTables_eq_error_iff] at h
    obtain ⟨_, _, _, _, -, -, -, hfault⟩ := h
    cases hfault
  · intro h
    rw [ofNodes, h]

theorem ofNodes_eq_error_iff {nodes : List Node} (hfault : fault ≠ .noTable) :
    ofNodes context nodes = .error fault ↔
      ∃ before table after cause,
        Node.findAll Element.isSheetTable nodes = before ++ table :: after ∧
        (∀ earlier ∈ before, Builds context earlier) ∧
        Sheet.ofTable context table [] = .error cause ∧
        fault = .table before.length table.sheetName cause := by
  by_cases hnil : Node.findAll Element.isSheetTable nodes = []
  · rw [ofNodes_eq_noTable_iff.mpr hnil, hnil]
    refine iff_of_false (fun h => hfault (Except.error.inj h).symm) ?_
    rintro ⟨before, table, after, -, happend, -⟩
    exact List.cons_ne_nil table after (List.append_eq_nil_iff.mp happend.symm).2
  · rw [ofNodes_of_ne_nil hnil, addTables_eq_error_iff]
    simp only [Nat.zero_add]

section Alone

/-- A table that stands alone comes first, before the tables inside it. -/
theorem findAll_alone (h : table.isSheetTable = true) :
    Node.findAll Element.isSheetTable [.element table] =
      table :: Node.findAll Element.isSheetTable table.children := by
  obtain ⟨tag, attributes, children⟩ := table
  rw [Node.findAll, Node.findAll, List.append_nil, Node.find, Element.find]
  exact if_pos h

theorem ofNodes_alone_eq_error_iff (h : table.isSheetTable = true) {cause : TableFault} :
    ofNodes context [.element table] = .error (.table 0 table.sheetName cause) ↔
      Sheet.ofTable context table [] = .error cause := by
  have hfault : DocumentFault.table 0 table.sheetName cause ≠ .noTable := DocumentFault.noConfusion
  rw [ofNodes_eq_error_iff hfault, findAll_alone h]
  constructor
  · rintro ⟨before, failing, after, cause', happend, -, hcause, hfault⟩
    obtain ⟨hlength, -, rfl⟩ := DocumentFault.table.inj hfault
    rw [List.eq_nil_of_length_eq_zero hlength.symm, List.nil_append] at happend
    rw [(List.cons.inj happend).1]
    exact hcause
  · intro hcause
    exact ⟨[], table, _, cause, rfl, List.forall_mem_nil _, hcause, rfl⟩

theorem builds_iff (h : table.isSheetTable = true) :
    Builds context table ↔
      ∀ cause, ofNodes context [.element table] ≠ .error (.table 0 table.sheetName cause) := by
  simp only [ne_eq, ofNodes_alone_eq_error_iff h, Builds]
  cases Sheet.ofTable context table [] <;> simp

theorem ofNodes_alone_eq_ok {s : Sheet} (h : table.isSheetTable = true)
    (hs : Sheet.ofTable context table [] = .ok s)
    (hinner : ∀ inner ∈ Node.findAll Element.isSheetTable table.children, Builds context inner) :
    ∃ w, ofNodes context [.element table] = .ok w ∧ w.sheet? 0 = some s := by
  obtain ⟨w, hw⟩ := addTables_of_builds hinner (({} : Workbook).push s) 1
  obtain ⟨sheets, hsheets, -⟩ :=
    forall₂_addTables (P := fun _ _ => True) (fun _ _ _ _ => trivial) hw
  refine ⟨w, ?_, ?_⟩
  · rw [ofNodes_of_ne_nil, findAll_alone h]
    · have hnames : ({} : Workbook).names = [] := rfl
      simp only [addTables, hnames, hs]
      exact hw
    · rw [findAll_alone h]
      exact List.cons_ne_nil _ _
  · rw [sheet?, hsheets]
    rfl

end Alone

/-- A document has no table exactly where no element is one, and then is refused
as such. Otherwise its sheets are those of its tables in document order, each as
its table gives it when read alone, but for a name that must not be repeated; or
it is refused for the first table that is refused when read alone, as any other
document is that starts with the same tables. -/
theorem ofNodes_separate (context : Context) (nodes : List Node) :
    ∃ tables, InDocumentOrder Element.isSheetTable nodes tables ∧
      (ofNodes context nodes = .error .noTable ↔
        ∀ path e, Node.elementAt? path nodes = some e → e.isSheetTable = false) ∧
      (∀ w, ofNodes context nodes = .ok w →
        List.Forall₂ (fun table s => ∃ v s₀, ofNodes context [.element table] = .ok v ∧
          v.sheet? 0 = some s₀ ∧ s = s₀.withName s.name ∧
          (context.options.dedupe = false → s = s₀)) tables w.sheets) ∧
      ∀ fault, ofNodes context nodes = .error fault → fault ≠ .noTable →
        ∃ before table after cause, tables = before ++ table :: after ∧
          fault = .table before.length table.sheetName cause ∧
          ofNodes context [.element table] = .error (.table 0 table.sheetName cause) ∧
          (∀ earlier ∈ before, ∀ cause, ofNodes context [.element earlier] ≠
            .error (.table 0 earlier.sheetName cause)) ∧
          ∀ other later, InDocumentOrder Element.isSheetTable other (before ++ table :: later) →
            ofNodes context other = .error fault := by
  have hinOrder := Node.inDocumentOrder_findAll Element.isSheetTable nodes
  have hsheetTable : ∀ table ∈ Node.findAll Element.isSheetTable nodes,
      table.isSheetTable = true := fun table h => (Node.mem_findAll_iff.mp h).1
  refine ⟨_, hinOrder, ?_, ?_, ?_⟩
  · rw [ofNodes_eq_noTable_iff, List.eq_nil_iff_forall_not_mem]
    simp only [Node.mem_findAll_iff]
    grind
  · intro w hw
    have hne : Node.findAll Element.isSheetTable nodes ≠ [] := by
      intro hnil
      rw [ofNodes_eq_noTable_iff.mpr hnil] at hw
      cases hw
    have hbuilds := builds_of_addTables ((ofNodes_of_ne_nil hne).symm.trans hw)
    have hsheets := forall₂_ofNodes (fun _ _ _ => eq_withName_of_ofTable) hw
    refine ((List.forall₂_and_left _ _).mpr ⟨fun _ => id, hsheets⟩).imp ?_
    rintro table s ⟨htable, s₀, hs₀, hname, hrepeat⟩
    obtain ⟨hsheet, hpath⟩ := Node.mem_findAll_iff.mp htable
    obtain ⟨v, hv, hfirst⟩ := ofNodes_alone_eq_ok hsheet hs₀ fun inner hinner =>
      hbuilds inner (Node.mem_findAll_of_mem_children hpath hinner)
    exact ⟨v, s₀, hv, hfirst, hname, hrepeat⟩
  · intro fault hfault hne
    obtain ⟨before, table, after, cause, htables, hbefore, hcause, rfl⟩ :=
      (ofNodes_eq_error_iff hne).mp hfault
    rw [htables] at hsheetTable
    have htable : table.isSheetTable = true := hsheetTable table (by simp)
    refine ⟨before, table, after, cause, htables, rfl, ?_, ?_, ?_⟩
    · exact (ofNodes_alone_eq_error_iff htable).mpr hcause
    · intro earlier hearlier
      exact (builds_iff (hsheetTable earlier (by simp [hearlier]))).mp (hbefore earlier hearlier)
    · intro other later hother
      have htables' := (Node.inDocumentOrder_findAll _ other).unique hother
      exact (ofNodes_eq_error_iff hne).mpr
        ⟨before, table, later, cause, htables', hbefore, hcause, rfl⟩

end Workbook

end TableBook
