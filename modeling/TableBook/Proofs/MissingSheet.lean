import TableBook.Command
import TableBook.Proofs.DiskWrite

namespace TableBook

theorem Workbook.sheet?_eq_none_iff {w : Workbook} {index : Nat} :
    w.sheet? index = none ↔ w.count ≤ index :=
  List.getElem?_eq_none_iff

namespace Command

variable {disk made : Disk} {w : Workbook} {index : Nat} {input path : String} {delimiter : Char}
  {lineEnd : LineEnd} {setup : Setup}

/-- The file at a path is not made, because of the delimiter or of what the path leads to. -/
def Refused (disk : Disk) (path : String) (delimiter : Char) : Prop :=
  128 ≤ delimiter.toNat ∨ ∃ fault, disk.write path "" = .error fault

theorem not_refused_iff :
    ¬Refused disk path delimiter ↔
      delimiter.toNat < 128 ∧ ∃ made, disk.write path "" = .ok made := by
  rw [Refused, not_or, Nat.not_le]
  refine and_congr_right fun _ => ?_
  cases disk.write path "" <;> simp

theorem writeFile_missing (hcount : w.count ≤ index) (csv : Csv)
    (hwrite : disk.write path "" = .ok made) :
    writeFile disk csv w index path =
      failing made [tried "Failed to write" path, (CsvFault.noSheet index w.count).message] := by
  rw [writeFile, hwrite]
  simp only [Workbook.sheet?_eq_none_iff.mpr hcount]

theorem writeCsv_converted (hdelimiter : delimiter.toNat < 128)
    (hconvert : convert disk input setup = .ok w) :
    writeCsv disk input (some path) index delimiter lineEnd setup =
      writeFile disk { delimiter, lineEnd } w index path := by
  rw [writeCsv, if_neg (Nat.not_le.mpr hdelimiter), hconvert]

theorem writeCsv_refused (hconvert : convert disk input setup = .ok w)
    (h : Refused disk path delimiter) :
    ∃ trace, writeCsv disk input (some path) index delimiter lineEnd setup =
      failing disk trace := by
  by_cases hdelimiter : 128 ≤ delimiter.toNat
  · exact ⟨_, if_pos hdelimiter⟩
  · obtain ⟨fault, hwrite⟩ := h.resolve_left hdelimiter
    rw [writeCsv_converted (Nat.not_le.mp hdelimiter) hconvert, writeFile, hwrite]
    exact ⟨_, rfl⟩

/-- A sheet that a workbook does not have is not written, and both ways to write it say so.
Saving leaves the whole disk as it was. The request leaves it so only if it is refused before
the file is made; otherwise the file at the path is empty afterwards, whether there was one or
not, and all other files are as they were. So the file is left as it was exactly if the request
is refused or there was nothing in it. -/
theorem writeCsv_missing_sheet (hcount : w.count ≤ index) :
    (∀ disk path, w.saveCsv disk index path = ⟨disk, some (.csv (.noSheet index w.count))⟩) ∧
    ∀ disk input path delimiter lineEnd setup, convert disk input setup = .ok w →
      ∀ outcome,
        outcome = (Request.writeCsv input (some path) index delimiter lineEnd setup).run disk →
        outcome.status = 1 ∧
        (Refused disk path delimiter → outcome.disk = disk) ∧
        (¬Refused disk path delimiter →
          outcome.errors = Trace.report
            [tried "Failed to write" path, (CsvFault.noSheet index w.count).message] ∧
          ∃ way, disk.Written path "" outcome.disk way) ∧
        (∀ old, disk.read path = .ok old → delimiter.toNat < 128 →
          outcome.disk.read path = .ok "") ∧
        (outcome.disk.read path = disk.read path ↔
          Refused disk path delimiter ∨ disk.read path = .ok "") := by
  refine ⟨fun disk path => ?_, fun disk input path delimiter lineEnd setup hconvert outcome h => ?_⟩
  · rw [Workbook.saveCsv, Workbook.sheet?_eq_none_iff.mpr hcount]
  · replace h : outcome = writeCsv disk input (some path) index delimiter lineEnd setup := h
    have hread : ∀ old, disk.read path = .ok old → ∃ made, disk.write path "" = .ok made :=
      fun old hold => Disk.exists_write_of_read hold ""
    by_cases hrefused : Refused disk path delimiter
    · obtain ⟨trace, hfailing⟩ := writeCsv_refused hconvert hrefused
      rw [hfailing] at h
      subst h
      refine ⟨rfl, fun _ => rfl, fun hnot => absurd hrefused hnot, fun old hold hdelimiter => ?_,
        iff_of_true rfl (.inl hrefused)⟩
      -- A file that can be read can be made anew, so this path is not refused.
      exact absurd hrefused (not_refused_iff.mpr ⟨hdelimiter, hread old hold⟩)
    · -- The file is made first, and then nothing is written to it.
      obtain ⟨hdelimiter, made, hwrite⟩ := not_refused_iff.mp hrefused
      obtain ⟨way, hwritten⟩ := Disk.exists_written hwrite
      rw [writeCsv_converted hdelimiter hconvert, writeFile_missing hcount _ hwrite] at h
      subst h
      refine ⟨rfl, fun hyes => absurd hyes hrefused, fun _ => ⟨rfl, way, hwritten⟩,
        fun _ _ _ => hwritten.read_eq, ?_⟩
      rw [or_iff_right hrefused, failing, hwritten.read_eq, eq_comm]

/-- A page with one table, and a file with a text. -/
def pageAndText : Disk where
  files :=
    [(["in.html"], "<table data-xls-sheet=\"S\"><tr><td>1</td></tr></table>"), (["out.csv"], "old")]

theorem writeCsv_missing_sheet_three :
    ∃ w, convert pageAndText "in.html" {} = .ok w ∧ w.count = 1 ∧
      (w.saveCsv pageAndText 3 "out.csv").disk.read "out.csv" = .ok "old" ∧
      ((Request.writeCsv "in.html" (some "out.csv") 3 ',' .crlf {}).run pageAndText).status = 1 ∧
      ((Request.writeCsv "in.html" (some "out.csv") 3 ',' .crlf {}).run pageAndText).disk.read
        "out.csv" = .ok "" := by
  have hcount : ((convert pageAndText "in.html" {}).map Workbook.count).toOption = some 1 := by
    decide +kernel
  have hold : pageAndText.read "out.csv" = .ok "old" := by decide +kernel
  cases hconvert : convert pageAndText "in.html" {} with
  | error trace =>
      rw [hconvert] at hcount
      cases hcount
  | ok w =>
      have hone : w.count = 1 := by
        rw [hconvert] at hcount
        exact Option.some.inj hcount
      obtain ⟨hsave, hrequest⟩ := writeCsv_missing_sheet (w := w) (show w.count ≤ 3 by omega)
      obtain ⟨hstatus, -, -, hempty, -⟩ := hrequest _ _ _ ',' .crlf _ hconvert _ rfl
      exact ⟨w, rfl, hone, by rw [hsave, hold], hstatus, hempty _ hold (by decide)⟩

/-- The words of a command line that asks for a fourth sheet end in a fault, and the text of the
file is lost. -/
theorem run_missing_sheet_empties :
    ((convert pageAndText "in.html" {}).map Workbook.count).toOption = some 1 ∧
      pageAndText.read "out.csv" = .ok "old" ∧
      (run pageAndText ["to-csv", "in.html", "-o", "out.csv", "-s", "3"]).status = 1 ∧
      (run pageAndText ["to-csv", "in.html", "-o", "out.csv", "-s", "3"]).disk.read "out.csv" =
        .ok "" := by
  decide +kernel

end Command

end TableBook
