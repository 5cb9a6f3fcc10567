import NfaWorkbench.Editor.Session
import NfaWorkbench.Text.Cluster
set_option autoImplicit false

/-!
# Editor: conversations

What a user of the editor sees: a title, what became of the file that was to be opened, a hint, and
then an answer to every line.  The conversation ends when the user leaves or when there are no more
lines.

A backspace in a line takes back what a reader sees as one character, a cluster.  The size of a
cluster is kept in one byte: of a cluster of 256 bytes or more only the remainder is taken back, and
the program breaks down if that remainder ends within a character.

Main statement: a line without a backspace is taken as it is (`typedLine_of_not_mem`).
-/

namespace NfaWorkbench.Editor

/-- The title of the editor. -/
def title (p : Text.Palette) : String := p.paint .title "fsakit" ++ "\n"

/-- The hint before the first command. -/
def hint : String := "Type 'help' for available commands.\n\n"

/-- What is shown when there are no more lines. -/
def farewell : String := "^D\n"

/-- An error as it is shown. -/
def errorLine (p : Text.Palette) (message : String) : String :=
  p.paint .red "Error" ++ ": " ++ message

/-! ## Lines as they are typed -/

/-- What has been typed of a line, last character first, and the sizes of its clusters, last one
first. -/
structure Typed where
  kept : List Char
  sizes : List Nat
  deriving DecidableEq, Repr, Inhabited

/-- A text, last character first, without some bytes at its end; `none` if they end within a
character. -/
def dropBytes : (count : Nat) → List Char → Option (List Char)
  | 0, text => some text
  | _ + 1, [] => some []
  | count + 1, c :: rest =>
    if c.utf8Size ≤ count + 1 then dropBytes (count + 1 - c.utf8Size) rest else none

namespace Typed

/-- What has been typed after one more cluster that is no backspace. -/
def append (t : Typed) (cluster : List Char) : Typed :=
  ⟨cluster.reverse ++ t.kept, (String.ofList cluster).utf8ByteSize % 256 :: t.sizes⟩

/-- What has been typed after a backspace. -/
def takeBack (t : Typed) : Option Typed :=
  match t.sizes with
  | [] => some t
  | size :: sizes => (dropBytes size t.kept).map (⟨·, sizes⟩)

/-- What has been typed after some more clusters. -/
def appendAll (t : Typed) : List (List Char) → Option Typed
  | [] => some t
  | cluster :: rest =>
    match if cluster = ['\x08'] then t.takeBack else some (t.append cluster) with
    | none => none
    | some t => appendAll t rest

end Typed

/-- What the user typed in a line; `none` if the program breaks down. -/
def typedLine (line : String) : Option String :=
  ((default : Typed).appendAll (Text.clusters line.toList)).map fun t =>
    Text.trim (String.ofList t.kept.reverse)

/-- Clusters without a backspace are typed one behind the other. -/
theorem Typed.exists_appendAll (t : Typed) {clusters : List (List Char)} (h : ['\x08'] ∉ clusters) :
    ∃ later, t.appendAll clusters = some later ∧
      later.kept.reverse = t.kept.reverse ++ clusters.flatten := by
  induction clusters generalizing t with
  | nil => exact ⟨t, rfl, by simp⟩
  | cons cluster rest ih =>
    obtain ⟨hfirst, hrest⟩ := not_or.1 (mt List.mem_cons.2 h)
    obtain ⟨later, happend, hkept⟩ := ih (t.append cluster) hrest
    refine ⟨later, ?_, ?_⟩
    · rw [appendAll, if_neg (Ne.symm hfirst)]
      exact happend
    · simp [hkept, append]

/-- A line without a backspace is typed as it is, but for the blanks around it. -/
theorem typedLine_of_not_mem {line : String} (h : '\x08' ∉ line.toList) :
    typedLine line = some (Text.trim line) := by
  have hclusters : ['\x08'] ∉ Text.clusters line.toList := by
    intro hmem
    refine h (Text.flatten_clusters line.toList ▸ ?_)
    exact List.mem_flatten.2 ⟨_, hmem, List.mem_singleton_self _⟩
  obtain ⟨typed, happend, hkept⟩ := Typed.exists_appendAll default hclusters
  have hline : String.ofList typed.kept.reverse = line := by
    rw [hkept, Text.flatten_clusters]
    exact String.ofList_toList
  rw [typedLine, happend, Option.map_some, hline]

namespace Reply

/-- Whether the conversation goes on after a reply. -/
def continues : Reply → Bool
  | quit => false
  | _ => true

/-- The text of a reply, without a line feed. -/
def render (p : Text.Palette) : Reply → String
  | quit => ""
  | nothing => ""
  | answer changes response => renderAnswer p changes response
  | refused reason => errorLine p reason.message

end Reply

/-- What is shown after a reply to a command. -/
def shownReply (p : Text.Palette) (reply : Reply) : String :=
  if reply.continues then reply.render p ++ "\n\n" else ""

/-- A conversation that has been opened: what was shown so far, and the session. -/
def opening (p : Text.Palette) (watch : Bool) (d : Directory) (file : Option String) :
    String × Session :=
  match file with
  | none => (title p ++ hint, .start watch)
  | some path =>
    let opened := (Session.start watch).openFile d path
    (title p ++ opened.1.render p ++ "\n" ++ hint, opened.2)

/-- How a conversation ended: what was shown, the directory at its end, and the exit status. -/
structure Conversation where
  shown : String
  directory : Directory
  status : UInt8
  deriving DecidableEq, Repr

/-- The exit status of a program that broke down. -/
def breakdownStatus : UInt8 := 101

/-- The rest of a conversation. -/
def converse (p : Text.Palette) (s : Session) (d : Directory) : List String → Conversation
  | [] => ⟨farewell, d, 0⟩
  | line :: rest => match typedLine line with
    | none => ⟨"", d, breakdownStatus⟩
    | some typed =>
      if typed = "" then converse p s d rest
      else
        let (reply, s, d) := s.execute d typed
        if reply.continues then
          let later := converse p s d rest
          { later with shown := shownReply p reply ++ later.shown }
        else ⟨"", d, 0⟩

/-- The lines of an input; the last one may lack its line feed. -/
def inputLines (input : String) : List String :=
  let pieces := Text.pieces (· == '\n') input.toList
  ((if pieces.getLast? = some [] then pieces.dropLast else pieces)).map String.ofList

/-- A whole conversation. -/
def conversation (p : Text.Palette) (watch : Bool) (d : Directory) (file : Option String)
    (input : String) : Conversation :=
  let opened := opening p watch d file
  let rest := converse p opened.2 d (inputLines input)
  { rest with shown := opened.1 ++ rest.shown }

end NfaWorkbench.Editor
