import NfaWorkbench.Files.IoFault
import NfaWorkbench.Registry
import NfaWorkbench.Text.Pieces
set_option autoImplicit false

/-!
# Files: the working directory

The workbench reads and writes files of its working directory, which holds files but no folders of
its own, and of the folders above it, of which nothing is known but that they exist.  A path is cut
at its slashes; single dots and empty parts mean the folder that has been reached, and two dots the
folder above it.

Main statements: what was written to a path is read back from it, and a write changes no other file.
-/

namespace NfaWorkbench

/-- The files that are there, under their paths from the working directory, with their contents.  The
path of a file of the working directory is its name, and that of a file of the folder above it is
its name behind two dots and a slash. -/
structure Directory where
  files : Registry String (List UInt8)
  deriving DecidableEq, Repr, Inhabited

/-- What a path leads to. -/
inductive Place
  /-- A folder. -/
  | folder
  /-- A file, whether it exists or not: the path of its folder, with a slash at its end, and its name.
  With a slash behind the name the path asks for a folder. -/
  | file (folder name : String) (slash : Bool)
  deriving DecidableEq, Repr

/-- The number of bytes that one part of a path may have. -/
def maxNameSize : Nat := 255

/-- The number of bytes that a path may have. -/
def maxPathSize : Nat := 4095

namespace Directory

/-- The contents of a file. -/
def file? (d : Directory) (path : String) : Option (List UInt8) := d.files.get? path

/-- The files of the working directory itself. -/
def ownFiles (d : Directory) : Registry String (List UInt8) :=
  d.files.filter fun e => !e.1.toList.contains '/'

/-- The path of the topmost folder. -/
def top : String := "/"

/-- The path of the folder above a folder; above the topmost one there is only itself. -/
def above (folder : String) : String := if folder = top then top else folder ++ "../"

/-- What the parts of a path lead to, from a folder on.  The path of the working directory is
empty. -/
def locate (d : Directory) (folder : String) : List String → Except IoFault Place
  | [] => .ok .folder
  | part :: rest =>
    if part = "" ∨ part = "." then d.locate folder rest
    else if part = ".." then d.locate (above folder) rest
    else if rest.all (· = "") then .ok (.file folder part (rest ≠ []))
    else if maxNameSize < part.utf8ByteSize then .error .nameTooLong
    else if (d.file? (folder ++ part)).isSome then .error .notADirectory
    else .error .notFound

/-- What a path leads to. -/
def resolve (d : Directory) (path : String) : Except IoFault Place :=
  if path.toList.contains '\x00' then .error .zeroInPath
  else if path = "" then .error .notFound
  else if maxPathSize < path.utf8ByteSize then .error .nameTooLong
  else
    let folder := if path.toList.head? = some '/' then top else ""
    d.locate folder ((Text.pieces (· == '/') path.toList).map String.ofList)

/-- Reads the file at a path. -/
def read (d : Directory) (path : String) : Except IoFault (List UInt8) :=
  match d.resolve path with
  | .error fault => .error fault
  | .ok .folder => .error .isADirectory
  | .ok (.file folder name slash) =>
    if maxNameSize < name.utf8ByteSize then .error .nameTooLong
    else match d.file? (folder ++ name) with
      | none => .error .notFound
      | some bytes => if slash then .error .notADirectory else .ok bytes

/-- Writes a file, which is created if it does not exist. -/
def write (d : Directory) (path : String) (bytes : List UInt8) : Except IoFault Directory :=
  match d.resolve path with
  | .error fault => .error fault
  | .ok .folder => .error .isADirectory
  | .ok (.file folder name slash) =>
    if slash then .error .isADirectory
    else if maxNameSize < name.utf8ByteSize then .error .nameTooLong
    else .ok ⟨d.files.put (folder ++ name) bytes⟩

/-- A successful write creates or changes the one file to which the path leads. -/
theorem file?_of_write {d e : Directory} {path : String} {bytes : List UInt8}
    (h : d.write path bytes = .ok e) :
    ∃ folder name, d.resolve path = .ok (.file folder name false) ∧
      name.utf8ByteSize ≤ maxNameSize ∧
      ∀ other, e.file? other = if other = folder ++ name then some bytes else d.file? other := by
  unfold write at h
  split at h
  · simp at h
  · simp at h
  · rename_i folder name slash hr
    split at h
    · simp at h
    · rename_i hs
      split at h
      · simp at h
      · rename_i hl
        simp only [Except.ok.injEq] at h
        subst h
        exact ⟨folder, name, by simpa [hs] using hr, Nat.le_of_not_lt hl,
          fun other => Registry.get?_put ..⟩

/-- Parts that lead to a file lead to it in every directory. -/
theorem locate_of_file {d : Directory} {start : String} {parts : List String}
    {folder name : String} {slash : Bool}
    (h : d.locate start parts = .ok (.file folder name slash)) (e : Directory) :
    e.locate start parts = .ok (.file folder name slash) := by
  induction parts generalizing start with
  | nil => simp [locate] at h
  | cons part rest ih =>
    rw [locate] at h ⊢
    split at h
    · rename_i hp
      rw [if_pos hp]
      exact ih h
    · rename_i hp
      rw [if_neg hp]
      split at h
      · rename_i hd
        rw [if_pos hd]
        exact ih h
      · rename_i hd
        rw [if_neg hd]
        split at h
        · rename_i hr
          rw [if_pos hr]
          exact h
        · split at h
          · simp at h
          · split at h <;> simp at h

/-- A path that leads to a file leads to it in every directory. -/
theorem resolve_of_file {d : Directory} {path folder name : String} {slash : Bool}
    (h : d.resolve path = .ok (.file folder name slash)) (e : Directory) :
    e.resolve path = .ok (.file folder name slash) := by
  unfold resolve at h ⊢
  split at h
  · simp at h
  · rename_i hz
    rw [if_neg hz]
    split at h
    · simp at h
    · rename_i he
      rw [if_neg he]
      split at h
      · simp at h
      · rename_i hl
        rw [if_neg hl]
        exact locate_of_file h e

/-- What was written to a path is read back from it. -/
theorem read_of_write {d e : Directory} {path : String} {bytes : List UInt8}
    (h : d.write path bytes = .ok e) : e.read path = .ok bytes := by
  obtain ⟨folder, name, hr, hl, hf⟩ := file?_of_write h
  have found : e.file? (folder ++ name) = some bytes := by simpa using hf (folder ++ name)
  simp [read, resolve_of_file hr e, found, Nat.not_lt_of_le hl]

example : (Directory.mk [("a", [])]).read "./a" = .ok [] := by cbv
example : (Directory.mk [("a", [])]).read "a/" = .error .notADirectory := by cbv
example : (Directory.mk []).read "b/.." = .error .notFound := by cbv
example : (Directory.mk []).write "b/" [] = .error .isADirectory := by cbv
example : (Directory.mk []).locate "" ["..", ".", "b"] = .ok (.file "../" "b" false) := rfl

end Directory

end NfaWorkbench
