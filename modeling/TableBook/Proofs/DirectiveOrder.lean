import Mathlib.Data.List.Nodup
import TableBook.Proofs.SameMarks
import TableBook.Proofs.StyleMerge
import TableBook.Style.Custom

namespace TableBook

/-- The directive that sets a field. -/
def StyleField.directive {α : Type} : StyleField α → Mark
  | fontName => .fontName
  | fontSize => .fontSize
  | bold => .fontBold
  | italic => .fontItalic
  | underline => .fontUnderline
  | fontColor => .fontColor
  | fill => .backgroundColor
  | edgeLine _ => .border
  | edgeColor _ => .borderColor
  | horizontal => .align
  | vertical => .verticalAlign
  | wrap => .wrap
  | numberFormat => .format
  | locked => .locked

@[simp] theorem Border.edge_all (edge : Edge) (side : Side) :
    (Border.all edge).edge side = some edge := by
  cases side <;> rfl

@[simp] theorem Border.edge_empty (side : Side) : ({} : Border).edge side = none := by
  cases side <;> rfl

theorem Mark.name_of_ofName? {name : String} {mark : Mark} (h : ofName? name = some mark) :
    mark.name = name := by
  have hfound := List.find?_some h
  exact eq_of_beq hfound

theorem Mark.name_injective : Function.Injective name := by
  intro mark mark' h
  exact Option.some.inj ((ofName?_name mark).symm.trans ((congrArg ofName? h).trans
    (ofName?_name mark')))

namespace Directive

variable {mark mark' : Mark} {value value' : String} {s t : Style}

/-- A style that leaves open whatever a directive is not there for. -/
structure SetsOnly (mark : Mark) (s : Style) : Prop where
  get : ∀ {α : Type} (field : StyleField α), field.directive ≠ mark → field.get s = none
  rules : mark ≠ .conditional → s.rules = []

theorem setsOnly_fragment? (h : fragment? mark value = some s) : SetsOnly mark s := by
  cases mark with
  | conditional =>
      obtain ⟨rule, -, rfl⟩ := Option.map_eq_some_iff.mp h
      refine ⟨?_, fun hne => absurd rfl hne⟩
      intro α field _
      cases field <;> simp [StyleField.get]
  | format | align | verticalAlign | wrap | locked | fontBold | fontItalic =>
      cases h
      refine ⟨?_, fun _ => rfl⟩
      intro α field hne
      cases field <;> first | exact absurd rfl hne | simp [StyleField.get]
  | backgroundColor | fontColor | fontSize | border | borderColor | fontUnderline =>
      obtain ⟨x, -, rfl⟩ := Option.map_eq_some_iff.mp h
      refine ⟨?_, fun _ => rfl⟩
      intro α field hne
      cases field <;> first | exact absurd rfl hne | simp [StyleField.get]
  | fontName =>
      rw [fragment?] at h
      split at h
      · cases h
      · cases h
        refine ⟨?_, fun _ => rfl⟩
        intro α field hne
        cases field <;> first | exact absurd rfl hne | simp [StyleField.get]
  | _ => cases h

theorem SetsOnly.merge_comm (hs : SetsOnly mark s) (ht : SetsOnly mark' t) (hne : mark ≠ mark') :
    s.merge t = t.merge s := by
  apply Style.ext_fields
  · intro α field
    rw [field.get_merge, field.get_merge]
    by_cases hfield : field.directive = mark
    · have hopen := ht.get field fun h => hne (hfield.symm.trans h)
      rw [hopen, Option.none_or, Option.or_none]
    · rw [hs.get field hfield, Option.none_or, Option.or_none]
  · intro side
    rw [Style.hasEdge_merge, Style.hasEdge_merge, Bool.or_comm]
  · change s.rules ++ t.rules = t.rules ++ s.rules
    by_cases hmark : mark = .conditional
    · have hnone := ht.rules fun h => hne (hmark.trans h.symm)
      rw [hnone, List.append_nil, List.nil_append]
    · rw [hs.rules hmark, List.append_nil, List.nil_append]

variable {entry : String × String} {attributes order : List (String × String)}

/-- The fragment of an attribute. -/
def layer? (entry : String × String) : Option Style :=
  (Mark.ofName? entry.1).bind (fragment? · entry.2)

/-- Lay the fragments of attributes one on the other. -/
def style (attributes : List (String × String)) : Style :=
  (attributes.filterMap layer?).foldl Style.merge {}

/-- Directives, each with a value that is there and is understood. -/
def Readable (attributes : List (String × String)) : Prop :=
  ∀ entry ∈ attributes, ∃ mark ∈ all,
    entry.1 = mark.name ∧ entry.2 ≠ "" ∧ (fragment? mark entry.2).isSome = true

theorem layer?_name (mark : Mark) (value : String) :
    layer? (mark.name, value) = fragment? mark value := by
  rw [layer?, Mark.ofName?_name, Option.bind_some]

/-- Where no directive is repeated, the order of the fragments does not matter. -/
theorem style_eq_of_perm (hnodup : (attributes.map (·.1)).Nodup) (h : attributes.Perm order) :
    style attributes = style order := by
  refine (h.filterMap layer?).foldl_eq' ?_ ({} : Style)
  intro s hs t ht base
  obtain ⟨entry, hentry, hlayer⟩ := List.mem_filterMap.mp hs
  obtain ⟨entry', hentry', hlayer'⟩ := List.mem_filterMap.mp ht
  obtain ⟨mark, hmark, hfragment⟩ := Option.bind_eq_some_iff.mp hlayer
  obtain ⟨mark', hmark', hfragment'⟩ := Option.bind_eq_some_iff.mp hlayer'
  have hcomm : s.merge t = t.merge s := by
    by_cases hsame : mark = mark'
    · have hname : entry.1 = entry'.1 := by
        rw [← Mark.name_of_ofName? hmark, ← Mark.name_of_ofName? hmark', hsame]
      obtain rfl := List.inj_on_of_nodup_map hnodup hentry hentry' hname
      rw [Option.some.inj (hlayer.symm.trans hlayer')]
    · exact (setsOnly_fragment? hfragment).merge_comm (setsOnly_fragment? hfragment') hsame
  rw [Style.merge_assoc, Style.merge_assoc, hcomm]

theorem ofDirectives_eq (h : Readable attributes) (name : String) (base : Style) :
    Style.ofDirectives name base attributes =
      .ok ((attributes.filterMap layer?).foldl Style.merge base) := by
  induction attributes generalizing base with
  | nil => rfl
  | cons entry rest ih =>
      obtain ⟨hentry, hrest⟩ := List.forall_mem_cons.mp h
      obtain ⟨attributeName, value⟩ := entry
      obtain ⟨mark, -, rfl, -, hread⟩ := hentry
      obtain ⟨fragment, hfragment⟩ := Option.isSome_iff_exists.mp hread
      have hlayer : layer? (mark.name, value) = some fragment :=
        (layer?_name mark value).trans hfragment
      rw [List.filterMap_cons, hlayer, Style.ofDirectives, Mark.ofName?_name]
      dsimp only
      rw [hfragment]
      exact ih hrest (base.merge fragment)

end Directive

namespace Element

open Directive

variable {cell : Element} {attributes : List (String × String)}

/-- The directives of a cell as attributes, in the order they are applied. -/
def directives (cell : Element) : List (String × String) :=
  Directive.all.filterMap fun mark => (cell.mark? mark).map (mark.name, ·)

theorem fragments_eq (cell : Element) : cell.fragments = cell.directives.filterMap layer? := by
  rw [fragments, directives, List.filterMap_filterMap]
  congr 1
  funext mark
  cases cell.mark? mark with
  | none => rfl
  | some value => exact (layer?_name mark value).symm

theorem mark?_eq_some_of_mem {mark : Mark} {value : String}
    (hnodup : (cell.attributes.map (·.1)).Nodup) (hmem : (mark.name, value) ∈ cell.attributes)
    (hvalue : value ≠ "") : cell.mark? mark = some value := by
  have hfind : cell.attributes.find? (·.1 == mark.name) = some (mark.name, value) := by
    cases hfound : cell.attributes.find? (·.1 == mark.name) with
    | none =>
        have hnone := List.find?_eq_none.mp hfound _ hmem
        exact absurd (beq_self_eq_true _) hnone
    | some entry =>
        have hname := List.find?_some hfound
        have hentry := List.mem_of_find?_eq_some hfound
        exact congrArg some (List.inj_on_of_nodup_map hnodup hentry hmem (eq_of_beq hname))
  rw [mark?, filled?, attribute?, hfind]
  simpa [Option.filter] using hvalue

/-- A cell that has nothing but directives has these directives. -/
theorem directives_perm (hreadable : Readable attributes)
    (hnodup : (attributes.map (·.1)).Nodup) (h : cell.attributes.Perm attributes) :
    cell.directives.Perm attributes := by
  have hcell : (cell.attributes.map (·.1)).Nodup := (h.map _).nodup_iff.mpr hnodup
  have hdistinct : cell.directives.Nodup := by
    refine List.Nodup.filterMap ?_ (by decide)
    intro mark mark' entry hentry hentry'
    obtain ⟨value, -, rfl⟩ := Option.map_eq_some_iff.mp hentry
    obtain ⟨value', -, heq⟩ := Option.map_eq_some_iff.mp hentry'
    exact Mark.name_injective (congrArg Prod.fst heq).symm
  rw [List.perm_ext_iff_of_nodup hdistinct (List.Nodup.of_map _ hnodup)]
  intro entry
  rw [directives, List.mem_filterMap]
  constructor
  · rintro ⟨mark, -, hentry⟩
    obtain ⟨value, hvalue, rfl⟩ := Option.map_eq_some_iff.mp hentry
    exact h.mem_iff.mp (mem_of_mark?_eq_some hvalue).1
  · intro hentry
    obtain ⟨attributeName, value⟩ := entry
    obtain ⟨mark, hmark, rfl, hvalue, -⟩ := hreadable _ hentry
    refine ⟨mark, hmark, ?_⟩
    rw [mark?_eq_some_of_mem hcell (h.mem_iff.mpr hentry) hvalue, Option.map_some]

theorem mark?_eq_none_of_readable (hreadable : Readable attributes)
    (h : cell.attributes.Perm attributes) {mark : Mark} (hmark : mark ∉ Directive.all) :
    cell.mark? mark = none := by
  cases hvalue : cell.mark? mark with
  | none => rfl
  | some value =>
      have hmem := h.mem_iff.mp (mem_of_mark?_eq_some hvalue).1
      obtain ⟨mark', hmark', hname, -⟩ := hreadable _ hmem
      exact absurd (Mark.name_injective hname ▸ hmark') hmark

theorem cellStyle_of_readable (context : Context) (hreadable : Readable attributes)
    (hnodup : (attributes.map (·.1)).Nodup) (h : cell.attributes.Perm attributes) :
    Sheet.cellStyle context cell none = .ok (Directive.style attributes) := by
  have hnone : ∀ mark, mark ∉ Directive.all → cell.mark? mark = none :=
    fun mark => mark?_eq_none_of_readable hreadable h
  have hperm : cell.directives.Perm attributes := directives_perm hreadable hnodup h
  have hstyle : cell.fragments.foldl Style.merge {} = Directive.style attributes := by
    rw [fragments_eq]
    exact style_eq_of_perm ((hperm.map _).nodup_iff.mpr hnodup) hperm
  rw [Sheet.cellStyle, hnone .namedStyle (by decide), hnone .link (by decide), ← hstyle]
  rfl

end Element

namespace Keyed

variable {κ α : Type} [Ord κ]

theorem nodup_keys [Std.ReflOrd κ] (m : Keyed κ α) : (m.entries.map (·.1)).Nodup := by
  rw [List.nodup_iff_pairwise_ne, List.pairwise_map]
  refine m.ascending.imp ?_
  intro a b hlt heq
  rw [heq, Std.compare_self] at hlt
  cases hlt

variable [Std.TransOrd κ] [Std.LawfulEqOrd κ] [DecidableEq κ] {pairs : List (κ × α)} {k : κ}

theorem get?_foldl_insert_of_notMem (hk : k ∉ pairs.map (·.1)) (m : Keyed κ α) :
    (pairs.foldl (fun m pair => m.insert pair.1 pair.2) m).get? k = m.get? k := by
  induction pairs generalizing m with
  | nil => rfl
  | cons pair rest ih =>
      rw [List.map_cons, List.mem_cons, not_or] at hk
      rw [List.foldl_cons, ih hk.2, get?_insert, if_neg hk.1]

theorem get?_foldl_insert_of_mem {v : α} (hnodup : (pairs.map (·.1)).Nodup)
    (hmem : (k, v) ∈ pairs) (m : Keyed κ α) :
    (pairs.foldl (fun m pair => m.insert pair.1 pair.2) m).get? k = some v := by
  induction pairs generalizing m with
  | nil => cases hmem
  | cons pair rest ih =>
      obtain ⟨hfresh, hrest⟩ := List.nodup_cons.mp hnodup
      rw [List.foldl_cons]
      rcases List.mem_cons.mp hmem with rfl | hmem
      · rw [get?_foldl_insert_of_notMem hfresh, get?_insert, if_pos rfl]
      · exact ih hrest hmem (m.insert pair.1 pair.2)

end Keyed

namespace Catalogue

open Directive

variable {text name : String} {records : List (String × List (String × String))}
  {directives : List (String × String)}

/-- What the record of a named style makes of it, if it can be read. -/
def readStyle (record : String × List (String × String)) :
    Except CustomStyleFault (String × Style) :=
  (Style.ofDirectives record.1 {} (Keyed.ofList record.2).entries).map (record.1, ·)

theorem readStyles_eq (h : Json.readRecords text.toList = .ok records) :
    readStyles text = (Keyed.ofList records).entries.mapM readStyle := by
  rw [readStyles, h]
  rfl

theorem readStyle_of_readable {record : String × List (String × String)}
    (h : Readable (Keyed.ofList record.2).entries) :
    readStyle record = .ok (record.1, Directive.style (Keyed.ofList record.2).entries) := by
  rw [readStyle, ofDirectives_eq h]
  rfl

theorem readStyle_eq_ok {record : String × List (String × String)} {entry : String × Style}
    (h : readStyle record = .ok entry) : ∃ style, entry = (record.1, style) := by
  rw [readStyle] at h
  cases hstyle : Style.ofDirectives record.1 {} (Keyed.ofList record.2).entries with
  | error fault =>
      rw [hstyle] at h
      cases h
  | ok style =>
      rw [hstyle] at h
      cases h
      exact ⟨style, rfl⟩

/-- Every record of a file gives one style, and under its own name. -/
theorem mapM_readStyle_eq_ok {styles : List (String × Style)}
    (h : records.mapM readStyle = .ok styles) :
    styles.map (·.1) = records.map (·.1) ∧
      ∀ record ∈ records, ∃ entry ∈ styles, readStyle record = .ok entry := by
  induction records generalizing styles with
  | nil =>
      cases h
      exact ⟨rfl, List.forall_mem_nil _⟩
  | cons record rest ih =>
      rw [List.mapM_cons] at h
      obtain ⟨entry, hentry, h⟩ := bind_eq_ok_iff.mp h
      obtain ⟨entries, hentries, h⟩ := bind_eq_ok_iff.mp h
      cases h
      obtain ⟨hnames, hall⟩ := ih hentries
      obtain ⟨style, rfl⟩ := readStyle_eq_ok hentry
      refine ⟨congrArg (record.1 :: ·) hnames, List.forall_mem_cons.mpr ⟨?_, ?_⟩⟩
      · exact ⟨_, List.mem_cons_self, hentry⟩
      · intro record' hrecord'
        obtain ⟨entry', hmem, hentry'⟩ := hall record' hrecord'
        exact ⟨entry', List.mem_cons_of_mem _ hmem, hentry'⟩

/-- A name stands for the style of its record, whatever the presets have under it. -/
theorem get?_of_ofText {catalogue : Catalogue} {style : Style}
    (hread : Json.readRecords text.toList = .ok records) (h : ofText text = .ok catalogue)
    (hrecord : (Keyed.ofList records).get? name = some directives)
    (hstyle : readStyle (name, directives) = .ok (name, style)) :
    catalogue.get? name = some style := by
  rw [ofText, readStyles_eq hread] at h
  cases hstyles : (Keyed.ofList records).entries.mapM readStyle with
  | error fault =>
      rw [hstyles] at h
      cases h
  | ok styles =>
      rw [hstyles] at h
      cases h
      obtain ⟨hnames, hall⟩ := mapM_readStyle_eq_ok hstyles
      obtain ⟨entry, hmem, hok⟩ := hall _ ((Keyed.get?_eq_some_iff _ _ _).mp hrecord)
      obtain rfl : (name, style) = entry := Except.ok.inj (hstyle.symm.trans hok)
      refine Keyed.get?_foldl_insert_of_mem ?_ hmem presets
      rw [hnames]
      exact Keyed.nodup_keys _

/-- A file whose records are all made of readable directives is taken. In any file that
is taken, a name with a record of that kind stands for the style that these directives
give a cell which carries them and nothing else, and their fragments give this style in
every order. -/
theorem ofText_directives (hread : Json.readRecords text.toList = .ok records) :
    ((∀ record ∈ (Keyed.ofList records).entries, Readable (Keyed.ofList record.2).entries) →
        ∃ catalogue, ofText text = .ok catalogue) ∧
      ∀ name directives, (Keyed.ofList records).get? name = some directives →
        Readable (Keyed.ofList directives).entries →
        ∃ style : Style,
          (∀ catalogue, ofText text = .ok catalogue → catalogue.get? name = some style) ∧
          (∀ (context : Context) (cell : Element),
            cell.attributes.Perm (Keyed.ofList directives).entries →
              Sheet.cellStyle context cell none = .ok style) ∧
          ∀ order : List (String × String), order.Perm (Keyed.ofList directives).entries →
            Style.ofDirectives name {} order = .ok style := by
  constructor
  · intro hreadable
    have hall := mapM_eq_ok fun record hrecord => readStyle_of_readable (hreadable record hrecord)
    exact ⟨_, by rw [ofText, readStyles_eq hread, hall]; rfl⟩
  · intro name directives hrecord hreadable
    have hdistinct := Keyed.nodup_keys (Keyed.ofList directives)
    refine ⟨Directive.style (Keyed.ofList directives).entries, ?_, ?_, ?_⟩
    · intro catalogue h
      exact get?_of_ofText hread h hrecord (readStyle_of_readable hreadable)
    · intro context cell hcell
      exact Element.cellStyle_of_readable context hreadable hdistinct hcell
    · intro order horder
      have hread' : Readable order := fun entry hentry => hreadable entry (horder.mem_iff.mp hentry)
      rw [ofDirectives_eq hread']
      exact congrArg Except.ok (style_eq_of_perm hdistinct horder.symm).symm

/-- The color of a border before its line in the file, and after it on a cell. -/
theorem ofText_directives_border :
    let text := "\x7b\"frame\": \x7b\"data-xls-border-color\": \"#C00000\", " ++
      "\"data-xls-border\": \"thin\", \"data-xls-conditional\": \"value>1|bold\"\x7d\x7d"
    let directives := [("data-xls-border-color", "#C00000"), ("data-xls-border", "thin"),
      ("data-xls-conditional", "value>1|bold")]
    let cell : Element := ⟨"td", directives.reverse, []⟩
    let edge : Edge := { line := some .thin, color := some (.rgb 0xC0 0 0) }
    Json.readRecords text.toList = .ok [("frame", directives)] ∧
      Readable (Keyed.ofList directives).entries ∧
      ∃ catalogue style, ofText text = .ok catalogue ∧ catalogue.get? "frame" = some style ∧
        Sheet.cellStyle ⟨∅, {}, {}⟩ cell none = .ok style ∧ style.border = .all edge := by
  intro text directives cell edge
  have hread : Json.readRecords text.toList = .ok [("frame", directives)] := by
    rw [← toOption_eq_some_iff]
    decide +kernel
  have hreadable : Readable (Keyed.ofList directives).entries := by
    unfold Readable
    decide +kernel
  have hrecord : (Keyed.ofList [("frame", directives)]).get? "frame" = some directives := by
    decide +kernel
  have hborder : (Style.ofDirectives "frame" {} directives).toOption.map Style.border =
      some (.all edge) := by
    decide +kernel
  have hperm : directives.Perm (Keyed.ofList directives).entries := by decide +kernel
  obtain ⟨htaken, hall⟩ := ofText_directives hread
  obtain ⟨catalogue, hcatalogue⟩ := htaken (List.forall_mem_singleton.mpr hreadable)
  obtain ⟨style, hnamed, hcell, horder⟩ := hall "frame" directives hrecord hreadable
  refine ⟨hread, hreadable, catalogue, style, hcatalogue, hnamed catalogue hcatalogue, ?_, ?_⟩
  · exact hcell _ cell (directives.reverse_perm.trans hperm)
  · rw [horder directives hperm] at hborder
    exact Option.some.inj hborder

end Catalogue

end TableBook
