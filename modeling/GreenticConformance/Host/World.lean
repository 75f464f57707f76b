import GreenticConformance.Host.Json
import GreenticConformance.Host.Path
import Mathlib.Data.Finset.Basic

/-!
# The outside world

What the operating system answers while a check runs. A check asks each question
of one state of the world, so an answer is a function of the question.
-/

namespace GreenticConformance.Host

/-- An entry of a directory walk, as far as it is looked at. -/
structure DirEntry where
  path : Path
  isFile : Bool
  deriving DecidableEq

/-- `std::fs::Metadata`, as far as it is looked at. -/
structure Metadata where
  isFile : Bool
  len : ℕ
  mode : ℕ
  deriving DecidableEq

/-- `serde_yaml::from_str` and `serde_json::from_str` at one type. -/
structure Parsers (α : Type) where
  yaml : String → Except String α
  json : String → Except String α

/-- The functions of `serde_json` on values of no particular type, and on lists of
strings. -/
structure SerdeJson where
  fromStr : String → Except String Json
  stringsFromStr : String → Except String (List String)
  toString : Json → String
  toStringPretty : Json → Except String String

/-- The file system, the environment and the order in which hash sets are
iterated. An error is known by its text. -/
structure World where
  pathExists : Path → Bool
  isDir : Path → Bool
  isFile : Path → Bool
  readToString : Path → Except String String
  metadata : Path → Except String Metadata
  walkDir : Path → List (Except String DirEntry)
  envVar : String → Option String
  currentDir : Except String Path
  hashOrder : Finset String → List String

/-- A world in which there is nothing. -/
def World.empty : World where
  pathExists _ := false
  isDir _ := false
  isFile _ := false
  readToString _ := .error "no such file"
  metadata _ := .error "no such file"
  walkDir _ := []
  envVar _ := none
  currentDir := .error "no such directory"
  hashOrder _ := []

end GreenticConformance.Host
