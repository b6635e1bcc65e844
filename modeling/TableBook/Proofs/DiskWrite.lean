import Mathlib.Data.List.Basic
import TableBook.Disk

namespace TableBook.Disk

/-- A place after a text was put on a way. -/
def Place.put (way : Way) (text : String) : Place → Place
  | .folder other => .folder other
  | .file other old => .file other (if other = way then text else old)

/-- If a place is a file, then it holds what the disk has on its way. -/
def Place.IsOn (d : Disk) : Place → Prop
  | .folder _ => True
  | .file way text => d.fileAt? way = some text

/-- A name that leads on from a folder. -/
structure IsName (name : String) : Prop where
  ne_empty : name ≠ ""
  ne_dot : name ≠ "."
  ne_up : name ≠ ".."

/-- One name on from a folder: staying there, going up, or going on to what is there. -/
inductive Leads (d : Disk) (way : Way) : String → Place → Prop
  | empty : Leads d way "" (.folder way)
  | dot : Leads d way "." (.folder way)
  | up : Leads d way ".." (.folder (up way))
  | file {name text : String} : IsName name → d.fileAt? (way ++ [name]) = some text →
      Leads d way name (.file (way ++ [name]) text)
  | folder {name : String} : IsName name → d.fileAt? (way ++ [name]) = none →
      d.hasFolder (way ++ [name]) = true → Leads d way name (.folder (way ++ [name]))

/-- A file may be put on a way where no folder is. -/
def IsFree (d : Disk) (way : Way) : Prop := d.fileAt? way = none → d.hasFolder way = false

variable {d made : Disk} {way other : Way} {path text name : String} {names : List String}
  {place next : Place}

theorem fileAt?_put (d : Disk) (way other : Way) (text : String) :
    (d.put way text).fileAt? other = if other = way then some text else d.fileAt? other := by
  rw [fileAt?, put, List.find?_cons]
  split
  · next h => rw [if_pos (eq_of_beq h).symm, Option.map_some]
  · next h =>
      have hne : other ≠ way := fun heq => absurd h (by simp [heq])
      rw [if_neg hne, fileAt?, List.find?_filter]
      congr 2
      funext file
      by_cases hfile : file.1 = other
      · simp [hfile, hne]
      · simp [hfile]

theorem hasFolder_put (h : d.hasFolder other = true) :
    (d.put way text).hasFolder other = true := by
  simp only [hasFolder, put, Bool.or_eq_true, List.any_cons, List.any_eq_true, List.mem_filter]
    at h ⊢
  refine h.imp_right fun ⟨file, hfile, hprefix⟩ => ?_
  by_cases heq : file.1 = way
  · exact .inl (heq ▸ hprefix)
  · exact .inr ⟨file, ⟨hfile, by simpa using heq⟩, hprefix⟩

theorem step_of_isName (h : IsName name) :
    d.step (.folder way) name =
      match d.fileAt? (way ++ [name]) with
      | some text => .ok (.file (way ++ [name]) text)
      | none =>
          if d.hasFolder (way ++ [name]) then .ok (.folder (way ++ [name]))
          else .error .missing := by
  have hstay : ¬(name = "" ∨ name = ".") := not_or.mpr ⟨h.ne_empty, h.ne_dot⟩
  exact (if_neg hstay).trans (if_neg h.ne_up)

theorem leads_or_isName (d : Disk) (way : Way) (name : String) :
    (∃ next, d.step (.folder way) name = .ok next ∧ d.Leads way name next) ∨ IsName name := by
  by_cases hempty : name = ""
  · exact .inl ⟨_, if_pos (.inl hempty), hempty ▸ .empty⟩
  by_cases hdot : name = "."
  · exact .inl ⟨_, if_pos (.inr hdot), hdot ▸ .dot⟩
  by_cases hup : name = ".."
  · subst hup
    exact .inl ⟨_, rfl, .up⟩
  · exact .inr ⟨hempty, hdot, hup⟩

theorem leads_of_step (h : d.step (.folder way) name = .ok next) : d.Leads way name next := by
  rcases leads_or_isName d way name with ⟨other, hstep, hleads⟩ | hname
  · rw [hstep] at h
    cases h
    exact hleads
  · rw [step_of_isName hname] at h
    split at h
    · next hfile =>
        cases h
        exact .file hname hfile
    · next hfile =>
        split at h
        · next hfolder =>
            cases h
            exact .folder hname hfile hfolder
        · cases h

theorem Leads.step (h : d.Leads way name next) : d.step (.folder way) name = .ok next := by
  cases h with
  | empty => rfl
  | dot => rfl
  | up => rfl
  | file hname hfile => rw [step_of_isName hname, hfile]
  | folder hname hfile hfolder => simp only [step_of_isName hname, hfile, hfolder, if_true]

theorem step_missing (h : d.step (.folder way) name = .error .missing) :
    IsName name ∧ d.fileAt? (way ++ [name]) = none ∧ d.hasFolder (way ++ [name]) = false := by
  rcases leads_or_isName d way name with ⟨other, hstep, -⟩ | hname
  · rw [hstep] at h
    cases h
  · rw [step_of_isName hname] at h
    split at h
    · cases h
    · next hfile =>
        split at h
        · cases h
        · next hfolder => exact ⟨hname, hfile, by simpa using hfolder⟩

theorem exists_folder_of_step (h : d.step place name = .ok next) : ∃ way, place = .folder way := by
  cases place with
  | folder way => exact ⟨way, rfl⟩
  | file => cases h

theorem isOn_of_step (h : d.step place name = .ok next) : next.IsOn d := by
  obtain ⟨way, rfl⟩ := exists_folder_of_step h
  cases leads_of_step h with
  | file _ hfile => exact hfile
  | _ => trivial

theorem step_put (hfree : d.IsFree way) (h : d.step place name = .ok next) :
    (d.put way text).step (place.put way text) name = .ok (next.put way text) := by
  obtain ⟨start, rfl⟩ := exists_folder_of_step h
  refine Leads.step ?_
  cases leads_of_step h with
  | empty => exact .empty
  | dot => exact .dot
  | up => exact .up
  | file hname hfile =>
      refine .file hname ?_
      rw [fileAt?_put, hfile]
      split <;> rfl
  | folder hname hfile hfolder =>
      -- No folder is on the way of the new file, so it does not hide this one.
      have hne : start ++ [name] ≠ way := by
        rintro rfl
        rw [hfree hfile] at hfolder
        cases hfolder
      refine .folder hname ?_ (hasFolder_put hfolder)
      rw [fileAt?_put, if_neg hne, hfile]

theorem foldlM_step_cons (h : (name :: names).foldlM d.step place = .ok next) :
    ∃ middle, d.step place name = .ok middle ∧ names.foldlM d.step middle = .ok next := by
  rw [List.foldlM_cons] at h
  cases hstep : d.step place name with
  | error fault =>
      rw [hstep] at h
      cases h
  | ok middle =>
      rw [hstep] at h
      exact ⟨middle, rfl, h⟩

theorem foldlM_step_append (h : names.foldlM d.step place = .ok next) (name : String) :
    (names ++ [name]).foldlM d.step place = d.step next name := by
  rw [List.foldlM_append, h]
  exact bind_pure (d.step next name)

theorem isOn_of_foldlM_step (hplace : place.IsOn d) (h : names.foldlM d.step place = .ok next) :
    next.IsOn d := by
  induction names generalizing place with
  | nil =>
      cases h
      exact hplace
  | cons name names ih =>
      obtain ⟨middle, hstep, hrest⟩ := foldlM_step_cons h
      exact ih (isOn_of_step hstep) hrest

theorem foldlM_step_put (hfree : d.IsFree way) (h : names.foldlM d.step place = .ok next) :
    names.foldlM (d.put way text).step (place.put way text) = .ok (next.put way text) := by
  induction names generalizing place with
  | nil =>
      cases h
      rfl
  | cons name names ih =>
      obtain ⟨middle, hstep, hrest⟩ := foldlM_step_cons h
      rw [List.foldlM_cons, step_put hfree hstep]
      exact ih hrest

/-- Whether a path is read name by name does not depend on the disk. -/
theorem locate_cases (path : String) :
    (path.isEmpty = true ∧ ∀ d : Disk, d.locate path = .error .missing) ∨
      (∀ d : Disk, d.locate path = .error .nul) ∨
        ∀ d : Disk, d.locate path = (split path).2.foldlM d.step (.folder (split path).1) := by
  by_cases hempty : path.isEmpty = true
  · exact .inl ⟨hempty, fun d => if_pos hempty⟩
  by_cases hnul : path.toList.contains '\x00' = true
  · exact .inr (.inl fun d => by rw [locate, if_neg hempty, if_pos hnul])
  · exact .inr (.inr fun d => by rw [locate, if_neg hempty, if_neg hnul])

theorem locate_eq_foldlM (h : d.locate path = .ok place) (made : Disk) :
    made.locate path = (split path).2.foldlM made.step (.folder (split path).1) := by
  rcases locate_cases path with ⟨-, hpath⟩ | hpath | hpath
  · rw [hpath] at h
    cases h
  · rw [hpath] at h
    cases h
  · exact hpath made

theorem isOn_of_locate (h : d.locate path = .ok place) : place.IsOn d := by
  have hstart : Place.IsOn d (.folder (split path).1) := trivial
  exact isOn_of_foldlM_step hstart (locate_eq_foldlM h d ▸ h)

theorem locate_put (hfree : d.IsFree way) (h : d.locate path = .ok place) :
    (d.put way text).locate path = .ok (place.put way text) := by
  rw [locate_eq_foldlM h]
  exact foldlM_step_put hfree (locate_eq_foldlM h d ▸ h)

/-- What writing a text to a path makes of a disk. -/
structure Written (d : Disk) (path text : String) (made : Disk) (way : Way) : Prop where
  locate_eq : made.locate path = .ok (.file way text)
  fileAt?_of_ne : ∀ other, other ≠ way → made.fileAt? other = d.fileAt? other
  locate_of_ok : ∀ other place, d.locate other = .ok place →
    made.locate other = .ok (place.put way text)

theorem written_put (hfree : d.IsFree way)
    (hpath : (d.put way text).locate path = .ok (.file way text)) :
    Written d path text (d.put way text) way where
  locate_eq := hpath
  fileAt?_of_ne other hne := by rw [fileAt?_put, if_neg hne]
  locate_of_ok _ _ h := locate_put hfree h

theorem locate_put_of_missing {start : Way}
    (hlocate : ∀ d : Disk, d.locate path = (names ++ [name]).foldlM d.step (.folder start))
    (hmissing : d.locate path = .error .missing)
    (hfolder : names.foldlM d.step (.folder start) = .ok (.folder way)) :
    d.IsFree (way ++ [name]) ∧
      (d.put (way ++ [name]) text).locate path = .ok (.file (way ++ [name]) text) := by
  have hstep : d.step (.folder way) name = .error .missing := by
    rwa [hlocate, foldlM_step_append hfolder] at hmissing
  obtain ⟨hname, -, hnone⟩ := step_missing hstep
  have hfree : d.IsFree (way ++ [name]) := fun _ => hnone
  refine ⟨hfree, ?_⟩
  have hput : names.foldlM (d.put (way ++ [name]) text).step (.folder start) = .ok (.folder way) :=
    foldlM_step_put hfree hfolder
  rw [hlocate, foldlM_step_append hput]
  exact Leads.step (.file hname (by rw [fileAt?_put, if_pos rfl]))

/-- A text goes to the file that a path leads to, or to a new one under the last name. -/
theorem write_cases (h : d.write path text = .ok made) :
    (∃ way old, d.locate path = .ok (.file way old) ∧ made = d.put way text) ∨
      ∃ way name, d.locate path = .error .missing ∧ ¬path.isEmpty = true ∧
        name ∈ (split path).2.getLast? ∧
        (split path).2.dropLast.foldlM d.step (.folder (split path).1) = .ok (.folder way) ∧
        made = d.put (way ++ [name]) text := by
  simp only [write] at h
  split at h
  · next way old hfile =>
      cases h
      exact .inl ⟨way, old, hfile, rfl⟩
  · cases h
  · next hmissing =>
      split at h
      · cases h
      · next name hlast =>
          split at h
          · cases h
          · next hempty =>
              split at h
              · cases h
              · split at h
                · next way hfolder =>
                    cases h
                    exact .inr ⟨way, name, hmissing, hempty, hlast, hfolder, rfl⟩
                · cases h
                · cases h
  · cases h

theorem exists_written (h : d.write path text = .ok made) :
    ∃ way, Written d path text made way := by
  rcases write_cases h with
    ⟨way, old, hfile, rfl⟩ | ⟨way, name, hmissing, hempty, hlast, hfolder, rfl⟩
  · -- The text takes the place of an old one.
    have hold : d.fileAt? way = some old := isOn_of_locate hfile
    have hfree : d.IsFree way := fun hnone => by rw [hold] at hnone; cases hnone
    refine ⟨way, written_put hfree ?_⟩
    rw [locate_put hfree hfile, Place.put, if_pos rfl]
  · -- Only the last name is missing: the names before it lead to a folder.
    rcases locate_cases path with ⟨hpath, -⟩ | hpath | hpath
    · exact absurd hpath hempty
    · rw [hpath] at hmissing
      cases hmissing
    · rw [← List.dropLast_append_getLast? name hlast] at hpath
      obtain ⟨hfree, hfile⟩ := locate_put_of_missing hpath hmissing hfolder
      exact ⟨way ++ [name], written_put hfree hfile⟩

theorem exists_write_of_read {old : String} (h : d.read path = .ok old) (text : String) :
    ∃ made, d.write path text = .ok made := by
  simp only [read] at h
  split at h
  · next way _ hfile => exact ⟨d.put way text, by rw [write, hfile]⟩
  · cases h
  · cases h

theorem Written.read_eq (h : Written d path text made way) : made.read path = .ok text := by
  rw [read, h.locate_eq]

end TableBook.Disk
