import NfaWorkbench.Files.Automata
import NfaWorkbench.Proofs.Document.Canonical
set_option autoImplicit false

/-!
# Files: loading and saving

What comes from a file is a consistent graph without a running simulation, and what is saved is
loaded again.  A second write to a path leaves no trace of the first.  A path that was read or
written once is the path of a file, and can be written in every directory.
-/

namespace NfaWorkbench.Directory

variable {d e : Directory} {path : String} {bytes : List UInt8} {owner : Nat} {g : Graph}

/-- Of two writes to one path only the second counts. -/
theorem write_of_write (h : d.write path bytes = .ok e) (later : List UInt8) :
    e.write path later = d.write path later := by
  obtain ⟨folder, name, hresolve, hsize, -⟩ := file?_of_write h
  have hwrite : ∀ contents, d.write path contents =
      .ok ⟨d.files.put (folder ++ name) contents⟩ := by
    intro contents
    simp [write, hresolve, Nat.not_lt_of_le hsize]
  rw [hwrite, Except.ok.injEq] at h
  subst h
  rw [hwrite, write, resolve_of_file hresolve]
  simp [Nat.not_lt_of_le hsize, Registry.put_put]

theorem load_eq_ok_iff : d.load owner path = .ok g ↔
    ∃ bytes, d.read path = .ok bytes ∧ Graph.read owner { bytes } = .ok g := by
  unfold load
  cases d.read path with
  | error fault => simp
  | ok bytes =>
    cases hread : Graph.read owner { bytes } with
    | error cause => simp [hread]
    | ok k => simp [hread]

/-- The error of a file that cannot be loaded carries its path. -/
theorem path_of_load_eq_error {error : LoadError} (h : d.load owner path = .error error) :
    error.path = path := by
  unfold load at h
  split at h
  · exact Except.error.inj h ▸ rfl
  · split at h
    · exact Except.error.inj h ▸ rfl
    · simp at h

theorem consistent_of_load (h : d.load owner path = .ok g) : g.Consistent := by
  obtain ⟨bytes, -, hread⟩ := load_eq_ok_iff.1 h
  exact Graph.consistent_of_read hread

/-- No simulation is running in an automaton that comes from a file. -/
theorem atRest_of_load (h : d.load owner path = .ok g) : g.snapshot.atRest = g.snapshot := by
  obtain ⟨bytes, -, hread⟩ := load_eq_ok_iff.1 h
  obtain ⟨records, -, hfollows⟩ := Graph.follows_of_read hread
  rw [hfollows.snapshot_eq, Snapshot.atRest_ofRecords]

/-- What is saved is loaded again, without the status of its simulation. -/
theorem exists_load_of_save (hg : g.Consistent) (h : d.save path g = .ok e) (owner : Nat) :
    ∃ b, e.load owner path = .ok b ∧ b.snapshot = g.snapshot.atRest ∧
      b.serialize = g.serialize := by
  obtain ⟨b, hparse, hsnapshot, hsame⟩ := hg.exists_parse_serialize owner
  exact ⟨b, load_eq_ok_iff.2 ⟨_, read_of_write h, hparse⟩, hsnapshot, hsame⟩

/-! ## Paths of files -/

/-- The path leads to a file, whatever the directory holds. -/
def IsFilePath (path : String) : Prop := ∃ folder name, name.utf8ByteSize ≤ maxNameSize ∧
  ∀ d : Directory, d.resolve path = .ok (.file folder name false)

theorem isFilePath_of_write (h : d.write path bytes = .ok e) : IsFilePath path := by
  obtain ⟨folder, name, hresolve, hsize, -⟩ := file?_of_write h
  exact ⟨folder, name, hsize, resolve_of_file hresolve⟩

theorem exists_file_of_read (h : d.read path = .ok bytes) :
    ∃ folder name, d.resolve path = .ok (.file folder name false) ∧
      name.utf8ByteSize ≤ maxNameSize ∧ d.file? (folder ++ name) = some bytes := by
  unfold read at h
  split at h
  · simp at h
  · simp at h
  · rename_i folder name slash hresolve
    split at h
    · simp at h
    · rename_i hsize
      split at h
      · simp at h
      · rename_i found hfile
        split at h
        · simp at h
        · rename_i hslash
          obtain rfl := Bool.eq_false_iff.2 hslash
          obtain rfl := Except.ok.inj h
          exact ⟨folder, name, hresolve, Nat.le_of_not_lt hsize, hfile⟩

theorem isFilePath_of_read (h : d.read path = .ok bytes) : IsFilePath path := by
  obtain ⟨folder, name, hresolve, hsize, -⟩ := exists_file_of_read h
  exact ⟨folder, name, hsize, resolve_of_file hresolve⟩

theorem IsFilePath.exists_write (h : IsFilePath path) (d : Directory) (bytes : List UInt8) :
    ∃ e, d.write path bytes = .ok e := by
  obtain ⟨folder, name, hsize, hresolve⟩ := h
  exact ⟨⟨d.files.put (folder ++ name) bytes⟩, by
    simp [write, hresolve, Nat.not_lt_of_le hsize]⟩

/-! ## One file is written -/

/-- The second directory is the first one with an automaton in the file at a path: the file holds
its canonical document, and all others are as they were. -/
structure Stored (d e : Directory) (path : String) (g : Graph) : Prop where
  read_eq : e.read path = .ok (Document.encode g.serialize)
  others_eq : ∃ folder name, d.resolve path = .ok (.file folder name false) ∧
    ∀ other, other ≠ folder ++ name → e.file? other = d.file? other

theorem stored_of_save (h : d.save path g = .ok e) : Stored d e path g := by
  obtain ⟨folder, name, hresolve, -, hfiles⟩ := file?_of_write h
  refine ⟨read_of_write h, folder, name, hresolve, fun other hother => ?_⟩
  rw [hfiles other, if_neg hother]

/-- Nothing changes if a file is overwritten with its own contents. -/
theorem file?_of_rewrite (hread : d.read path = .ok bytes) (hwrite : d.write path bytes = .ok e)
    (other : String) : e.file? other = d.file? other := by
  obtain ⟨folder, name, hresolve, -, hfound⟩ := exists_file_of_read hread
  obtain ⟨folder', name', hresolve', -, hfiles⟩ := file?_of_write hwrite
  rw [hresolve] at hresolve'
  cases hresolve'
  rw [hfiles other]
  split
  · rename_i hsame
    rw [hsame, hfound]
  · rfl

end NfaWorkbench.Directory
