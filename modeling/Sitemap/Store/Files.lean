import Sitemap.Log
import Sitemap.Store.Basic
import Sitemap.Text.Lines
import Sitemap.Text.Utf8

/-!
# Reading and writing files

* `Store.readBytes`, `Store.readText` : the content of a file, and its text with every line end as
  a line feed;
* `Store.writeBytes` : replaces or creates a file;
* `Store.makeDirectory`, `Store.makeDirectories` : creates a directory, and those on the way to it;
* `Store.holdsText` : a file holds a given text already;
* `Store.writeModule` : writes a generated module if its text changed, with records.
-/

namespace Sitemap

/-- Why a file cannot be read as text, or an operation on it fails. -/
inductive TextFault where
  | file (error : FileError)
  | decoding (failure : Utf8.Failure)
  deriving DecidableEq

/-- The wording of a failure to decode. -/
def Utf8.Failure.message (f : Utf8.Failure) : String :=
  let reason := match f.fault with
    | .start => "invalid start byte"
    | .continuation => "invalid continuation byte"
    | .truncated => "unexpected end of data"
  match f.bytes with
  | [b] => "'utf-8' codec can't decode byte 0x" ++ String.ofList (hexDigits 2 b.toNat) ++
      " in position " ++ toString f.offset ++ ": " ++ reason
  | bytes => "'utf-8' codec can't decode bytes in position " ++ toString f.offset ++ "-" ++
      toString (f.offset + bytes.length - 1) ++ ": " ++ reason

def TextFault.message : TextFault → String
  | file error => error.message
  | decoding failure => failure.message

namespace Store

/-! ## Reading -/

def readBytes (s : Store) (path : String) : Except FileError (List UInt8) :=
  match s.item path with
  | .ok (.file content) => .ok content
  | .ok .directory => .error ⟨.isDirectory, path⟩
  | .error fault => .error ⟨fault, path⟩

/-- The text of a file with every line end as a line feed. -/
def readText (s : Store) (path : String) : Except TextFault String := do
  let content ← (s.readBytes path).mapError .file
  let text ← (Utf8.decode content).mapError .decoding
  return String.ofList (unifyLines text.toList)

def holdsText (s : Store) (path text : String) : Except TextFault Bool :=
  if s.holds path then (s.readText path).map (· == text) else .ok false

/-! ## Writing -/

/-- The location of a file to be written. -/
def target (s : Store) (path : String) : Except FileFault Location := do
  if path.isEmpty then .error .missing
  let names := pathNames path
  let parent ← s.follow names.dropLast
  match s.item? parent, names.getLast? with
  | none, _ => .error .missing
  | some (.file _), _ => .error .notDirectory
  | some .directory, none => .error .isDirectory
  | some .directory, some name =>
    if name = "." ∨ name = ".." then .error .isDirectory
    else match s.item? (parent ++ [name]) with
      | some .directory => .error .isDirectory
      | _ => .ok (parent ++ [name])

def writeBytes (s : Store) (path : String) (content : List UInt8) : Except FileError Store :=
  match s.target path with
  | .ok at_ => .ok (s.set at_ (.file content))
  | .error fault => .error ⟨fault, path⟩

/-! ## Directories -/

/-- A path without the slashes at its end, unless it has nothing else. -/
def trimSlashes (path : List Char) : List Char :=
  let trimmed := (path.reverse.dropWhile (· = '/')).reverse
  if trimmed.isEmpty then path else trimmed

/-- The part of a path up to its last slash, without that slash, and the part after it. -/
def splitPath (path : String) : String × String :=
  let names := path.toList.reverse
  (String.ofList (trimSlashes (names.dropWhile (· ≠ '/')).reverse),
    String.ofList (names.takeWhile (· ≠ '/')).reverse)

/-- The directory around a directory, and the name of the latter; a slash at the end of a path does
not count. -/
def splitDirectory (path : String) : String × String :=
  if (splitPath path).2 = "" then splitPath (splitPath path).1 else splitPath path

theorem length_trimSlashes_le (path : List Char) : (trimSlashes path).length ≤ path.length := by
  have h := (List.dropWhile_suffix (· = '/') (l := path.reverse)).length_le
  rw [List.length_reverse] at h
  unfold trimSlashes
  simp only
  split
  · exact Nat.le_refl _
  · rwa [List.length_reverse]

theorem length_splitPath_le (path : String) :
    (splitPath path).1.length + (splitPath path).2.length ≤ path.length := by
  have hsum := congrArg List.length
    (List.takeWhile_append_dropWhile (p := fun c => decide (c ≠ '/')) (l := path.toList.reverse))
  have hhead := length_trimSlashes_le (path.toList.reverse.dropWhile (· ≠ '/')).reverse
  rw [List.length_append, List.length_reverse, String.length_toList] at hsum
  rw [List.length_reverse] at hhead
  simp only [splitPath, String.length_ofList, List.length_reverse]
  omega

/-- The directory around a directory has a shorter path. -/
theorem length_splitDirectory_lt {path : String} (h : (splitDirectory path).2 ≠ "") :
    (splitDirectory path).1.length < path.length := by
  have hpath := length_splitPath_le path
  have hhead := length_splitPath_le (splitPath path).1
  have hpos : 0 < (splitDirectory path).2.length :=
    Nat.pos_of_ne_zero fun hzero => h (String.length_eq_zero_iff.1 hzero)
  unfold splitDirectory at hpos ⊢
  split at hpos
  · rename_i htail
    rw [if_pos htail]
    omega
  · rename_i htail
    rw [if_neg htail]
    omega

/-- Creates one directory. -/
def makeDirectory (s : Store) (path : String) : Except FileError Store :=
  let made : Except FileFault Store := do
    if path.isEmpty then .error .missing
    let names := pathNames (String.ofList (trimSlashes path.toList))
    let parent ← s.follow names.dropLast
    match s.item? parent, names.getLast? with
    | none, _ => .error .missing
    | some (.file _), _ => .error .notDirectory
    | some .directory, none => .error .present
    | some .directory, some name =>
      if name = "." ∨ name = ".." then .error .present
      else if (s.item? (parent ++ [name])).isSome then .error .present
      else .ok (s.set (parent ++ [name]) .directory)
  made.mapError fun fault => ⟨fault, path⟩

/-- Creates a directory unless it is there. -/
def ensureDirectory (s : Store) (path : String) : Store × Option FileError :=
  match s.makeDirectory path with
  | .ok s => (s, none)
  | .error e => if s.isDirectory path then (s, none) else (s, some e)

/-- Creates a directory after those on the way to it, which may have failed. That something stands
in the way there shows only when the directory itself is made. -/
def makeDirectoryAfter (path : String) (made : Store × Option FileError) :
    Store × Option FileError :=
  if made.2.any (·.fault ≠ .present) then made
  else if (splitDirectory path).2 = "." then (made.1, none)
  else made.1.ensureDirectory path

/-- Creates a directory and those on the way to it. -/
def makeDirectoriesUpTo (s : Store) (path : String) : Store × Option FileError :=
  if (splitDirectory path).1 ≠ "" ∧ (splitDirectory path).2 ≠ "" then
    if s.holds (splitDirectory path).1 then s.ensureDirectory path
    else makeDirectoryAfter path (makeDirectoriesUpTo s (splitDirectory path).1)
  else s.ensureDirectory path
termination_by path.length
decreasing_by
  rename_i hsplit _
  exact length_splitDirectory_lt hsplit.2

/-- Creates a directory and those on the way to it; an empty path is nothing to create. -/
def makeDirectories (s : Store) (path : String) : Store × Option FileError :=
  if path.isEmpty then (s, none) else makeDirectoriesUpTo s path

/-! ## Generated modules -/

/-- The records of an attempt to write a module and its outcome: whether it was written. -/
structure Written where
  store : Store
  outcome : Except TextFault Bool
  records : List Log.Record

/-- A failed attempt. A fault of the files is recorded. -/
def Written.failed (s : Store) (path : String) (fault : TextFault) : Written :=
  ⟨s, .error fault, match fault with
    | .file e => [⟨.renderer, .error,
        "Error writing generated module to " ++ path ++ ": " ++ e.message⟩]
    | .decoding _ => []⟩

/-- Writes a generated module unless the file holds its text already. -/
def writeModule (s : Store) (path source : String) : Written :=
  match s.holdsText path source with
  | .error fault => .failed s path fault
  | .ok true => ⟨s, .ok false, [⟨.renderer, .info, "Generated module is up to date: " ++ path⟩]⟩
  | .ok false =>
    match s.makeDirectories (splitPath path).1 with
    | (s, some e) => .failed s path (.file e)
    | (s, none) =>
      match s.writeBytes path (Utf8.encode source) with
      | .error e => .failed s path (.file e)
      | .ok s => ⟨s, .ok true, [⟨.renderer, .info, "Wrote generated module: " ++ path⟩]⟩

end Store

end Sitemap
