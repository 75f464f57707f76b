import Mathlib.Data.List.DropRight
import Mathlib.Data.String.Basic
import Mathlib.Tactic.Common

/-!
# Paths

`std::path::Path` on Unix, over the text of a path. A byte that is not part of
valid UTF-8 is kept apart from the characters, so a path may fail to be a string.
-/

namespace GreenticConformance.Host

/-- One character of an `OsStr`, or a byte that belongs to none. -/
inductive OsChar where
  | char (c : Char)
  | byte (b : UInt8)
  deriving DecidableEq

/-- `std::ffi::OsStr`. -/
abbrev OsStr := List OsChar

namespace OsStr

/-- `OsStr::from`, on a string. -/
def ofString (s : String) : OsStr := s.toList.map .char

/-- `OsStr::to_str`: a string, if every byte belongs to a character. -/
def toStr (s : OsStr) : Option String :=
  let decode : OsChar → Option Char
    | .char c => some c
    | .byte _ => none
  (s.mapM decode).map String.ofList

/-- `OsStr::to_string_lossy`. -/
def toStringLossy (s : OsStr) : String :=
  let lossy : OsChar → Char
    | .char c => c
    | .byte _ => '\uFFFD'
  String.ofList (s.map lossy)

end OsStr

/-- `std::path::Path`: its text. -/
structure Path where
  text : OsStr
  deriving DecidableEq

namespace Path

def ofString (s : String) : Path := ⟨OsStr.ofString s⟩

def separator : OsChar := .char '/'

def dot : OsChar := .char '.'

/-- The text up to and including the last separator, and what follows it. -/
def splitLast (t : OsStr) : OsStr × OsStr :=
  (t.rdropWhile (· ≠ separator), t.rtakeWhile (· ≠ separator))

/-- Drops from the end what `components` skips: separators and single dots that
follow one. -/
def trimEnd (t : OsStr) : OsStr :=
  go t.length t
where
  go : ℕ → OsStr → OsStr
    | 0, t => t
    | n + 1, t =>
      match splitLast t with
      | (before, []) => if before.length ≤ 1 then t else go n before.dropLast
      | (before, [c]) => if c = dot ∧ before ≠ [] then go n before else t
      | _ => t

/-- `Path::display`, and `Path::to_string_lossy`. -/
def display (p : Path) : String := p.text.toStringLossy

/-- `Path::is_absolute`. -/
def isAbsolute (p : Path) : Bool := p.text.head? = some separator

/-- `Path::file_name`. -/
def fileName (p : Path) : Option OsStr :=
  match (splitLast (trimEnd p.text)).2 with
  | [] => none
  | name => if name = [dot] ∨ name = [dot, dot] then none else some name

/-- The file name split at its last dot, if that dot is not its first
character. -/
def splitExtension (name : OsStr) : OsStr × Option OsStr :=
  match name.rdropWhile (· ≠ dot) with
  | [] | [_] => (name, none)
  | stem => (stem.dropLast, some (name.rtakeWhile (· ≠ dot)))

/-- `Path::extension`. -/
def extension (p : Path) : Option OsStr :=
  p.fileName.bind fun name => (splitExtension name).2

/-- The extension is one of `names`. -/
def hasExtension (p : Path) (names : List String) : Bool :=
  p.extension.any fun ext => ext ∈ names.map OsStr.ofString

/-- `Path::parent`. -/
def parent (p : Path) : Option Path :=
  let t := trimEnd p.text
  if t = [] ∨ t = [separator] then none else some ⟨trimEnd (splitLast t).1⟩

/-- `Path::join`. -/
def join (p q : Path) : Path :=
  if q.isAbsolute then q
  else if p.text = [] ∨ p.text.getLast? = some separator then ⟨p.text ++ q.text⟩
  else ⟨p.text ++ separator :: q.text⟩

/-- `Path::with_extension`. -/
def withExtension (p : Path) (extension : String) : Path :=
  match p.fileName with
  | none => p
  | some name =>
    let stem := (splitLast (trimEnd p.text)).1 ++ (splitExtension name).1
    if extension = "" then ⟨stem⟩ else ⟨stem ++ dot :: OsStr.ofString extension⟩

example : (ofString "packs/demo.tar.gz").extension = some (OsStr.ofString "gz") := by decide

example : (ofString "packs/.hidden").extension = none := by decide

example : (ofString "/packs//demo.yaml/").parent = some (ofString "/packs") := by decide

example : (ofString "packs/demo.wasm").withExtension "json" = ofString "packs/demo.json" := by
  decide

example : (ofString "packs").join (ofString "flows") = ofString "packs/flows" := by decide

end Path

end GreenticConformance.Host
